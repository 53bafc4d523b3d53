import PostMarkup.Url.Domain.Direction

/-! # Joiners in domain names

The zero-width joiner and non-joiner are invisible, so a name may hold them only where they change
the shape of the letters beside them: after a sign that silences a vowel, and the non-joiner also
between letters that would be joined.
-/

namespace PostMarkup.Url.Domain

open PostMarkup.Unicode

def bothSidesRanges : Ranges := [
  (0x620, 0x620), (0x626, 0x626), (0x628, 0x628), (0x62a, 0x62e), (0x633, 0x63f), (0x641, 0x647),
  (0x649, 0x64a), (0x66e, 0x66f), (0x679, 0x687), (0x69a, 0x6bf), (0x6c1, 0x6c2), (0x6cc, 0x6cc),
  (0x6ce, 0x6ce), (0x6d0, 0x6d1), (0x6fa, 0x6fc), (0x6ff, 0x6ff), (0x712, 0x714), (0x71a, 0x71d),
  (0x71f, 0x727), (0x729, 0x729), (0x72b, 0x72b), (0x72d, 0x72e), (0x74e, 0x758), (0x75c, 0x76a),
  (0x76d, 0x770), (0x772, 0x772), (0x775, 0x777), (0x77a, 0x77f), (0x7ca, 0x7ea), (0x841, 0x845),
  (0x848, 0x848), (0x84a, 0x853), (0x855, 0x855), (0x860, 0x860), (0x862, 0x865), (0x868, 0x868),
  (0x886, 0x886), (0x889, 0x88d), (0x88f, 0x88f), (0x8a0, 0x8a9), (0x8af, 0x8b0), (0x8b3, 0x8b8),
  (0x8ba, 0x8c8), (0x1807, 0x1807), (0x1820, 0x1878), (0x1887, 0x18a8), (0x18aa, 0x18aa),
  (0xa840, 0xa871), (0xfb52, 0xfb81), (0xfb8e, 0xfba3), (0xfba6, 0xfbad), (0xfbd3, 0xfbd6),
  (0xfbe4, 0xfbe9), (0xfbf6, 0xfc36), (0xfc38, 0xfc5a), (0xfc5d, 0xfc5d), (0xfc66, 0xfc69),
  (0xfc6c, 0xfc6f), (0xfc72, 0xfc75), (0xfc78, 0xfc7f), (0xfc81, 0xfc87), (0xfc89, 0xfc89),
  (0xfc8c, 0xfc90), (0xfc93, 0xfcf1), (0xfcf5, 0xfd0c), (0xfd11, 0xfd28), (0xfd2d, 0xfd3b),
  (0xfd50, 0xfd8f), (0xfd92, 0xfdc7), (0xfdf2, 0xfdf2), (0xfdf5, 0xfdfc), (0xfe89, 0xfe8c),
  (0xfe8f, 0xfe92), (0xfe95, 0xfea8), (0xfeb1, 0xfeec), (0xfeef, 0xfef4), (0x10ac0, 0x10ac4),
  (0x10ad3, 0x10ad6), (0x10ad8, 0x10adc), (0x10ade, 0x10ae0), (0x10aeb, 0x10aee),
  (0x10b80, 0x10b80), (0x10b82, 0x10b82), (0x10b86, 0x10b88), (0x10b8a, 0x10b8b),
  (0x10b8d, 0x10b8d), (0x10b90, 0x10b90), (0x10bad, 0x10bae), (0x10d01, 0x10d21),
  (0x10d23, 0x10d23), (0x10ec3, 0x10ec4), (0x10ec6, 0x10ec7), (0x10f30, 0x10f32),
  (0x10f34, 0x10f44), (0x10f51, 0x10f53), (0x10f70, 0x10f73), (0x10f76, 0x10f81),
  (0x10fb0, 0x10fb0), (0x10fb2, 0x10fb3), (0x10fb8, 0x10fb8), (0x10fbb, 0x10fbc),
  (0x10fbe, 0x10fbf), (0x10fc1, 0x10fc1), (0x10fc4, 0x10fc4), (0x10fca, 0x10fca),
  (0x1e900, 0x1e943), (0x1ee01, 0x1ee02), (0x1ee07, 0x1ee12), (0x1ee14, 0x1ee17),
  (0x1ee19, 0x1ee7e), (0x1ee81, 0x1ee82), (0x1ee84, 0x1ee84), (0x1ee87, 0x1ee92),
  (0x1ee94, 0x1ee97), (0x1ee99, 0x1eea2), (0x1eea7, 0x1eeb2), (0x1eeb4, 0x1eeb7),
  (0x1eeb9, 0x1eebb)]

def beforeRanges : Ranges := [
  (0x622, 0x625), (0x627, 0x627), (0x629, 0x629), (0x62f, 0x632), (0x648, 0x648), (0x671, 0x673),
  (0x675, 0x678), (0x688, 0x699), (0x6c0, 0x6c0), (0x6c3, 0x6cb), (0x6cd, 0x6cd), (0x6cf, 0x6cf),
  (0x6d2, 0x6d3), (0x6d5, 0x6d5), (0x6ee, 0x6ef), (0x710, 0x710), (0x715, 0x719), (0x71e, 0x71e),
  (0x728, 0x728), (0x72a, 0x72a), (0x72c, 0x72c), (0x72f, 0x72f), (0x74d, 0x74d), (0x759, 0x75b),
  (0x76b, 0x76c), (0x771, 0x771), (0x773, 0x774), (0x778, 0x779), (0x840, 0x840), (0x846, 0x847),
  (0x849, 0x849), (0x854, 0x854), (0x856, 0x858), (0x867, 0x867), (0x869, 0x882), (0x88e, 0x88e),
  (0x8aa, 0x8ac), (0x8ae, 0x8ae), (0x8b1, 0x8b2), (0x8b9, 0x8b9), (0xfb50, 0xfb51),
  (0xfb82, 0xfb8d), (0xfba4, 0xfba5), (0xfbae, 0xfbb1), (0xfbd7, 0xfbe3), (0xfbea, 0xfbf5),
  (0xfc37, 0xfc37), (0xfc5b, 0xfc5c), (0xfc64, 0xfc65), (0xfc6a, 0xfc6b), (0xfc70, 0xfc71),
  (0xfc76, 0xfc77), (0xfc80, 0xfc80), (0xfc88, 0xfc88), (0xfc8a, 0xfc8b), (0xfc91, 0xfc92),
  (0xfd0d, 0xfd10), (0xfd29, 0xfd2c), (0xfd3c, 0xfd3d), (0xfdf0, 0xfdf1), (0xfdf3, 0xfdf4),
  (0xfe81, 0xfe88), (0xfe8d, 0xfe8e), (0xfe93, 0xfe94), (0xfea9, 0xfeb0), (0xfeed, 0xfeee),
  (0xfef5, 0xfefc), (0x10ac5, 0x10ac5), (0x10ac7, 0x10ac7), (0x10ac9, 0x10aca), (0x10ace, 0x10ad2),
  (0x10add, 0x10add), (0x10ae1, 0x10ae1), (0x10ae4, 0x10ae4), (0x10aef, 0x10aef),
  (0x10b81, 0x10b81), (0x10b83, 0x10b85), (0x10b89, 0x10b89), (0x10b8c, 0x10b8c),
  (0x10b8e, 0x10b8f), (0x10b91, 0x10b91), (0x10ba9, 0x10bac), (0x10d22, 0x10d22),
  (0x10ec2, 0x10ec2), (0x10f33, 0x10f33), (0x10f54, 0x10f54), (0x10f74, 0x10f75),
  (0x10fb4, 0x10fb6), (0x10fb9, 0x10fba), (0x10fbd, 0x10fbd), (0x10fc2, 0x10fc3),
  (0x10fc9, 0x10fc9), (0x1ee00, 0x1ee00), (0x1ee03, 0x1ee06), (0x1ee13, 0x1ee13),
  (0x1ee18, 0x1ee18), (0x1ee80, 0x1ee80), (0x1ee83, 0x1ee83), (0x1ee85, 0x1ee86),
  (0x1ee93, 0x1ee93), (0x1ee98, 0x1ee98), (0x1eea3, 0x1eea6), (0x1eeb3, 0x1eeb3),
  (0x1eeb8, 0x1eeb8)]

def afterRanges : Ranges := [
  (0xa872, 0xa872), (0x10acd, 0x10acd), (0x10ad7, 0x10ad7), (0x10d00, 0x10d00), (0x10fcb, 0x10fcb)]

/-- Whether a character does not keep the letters around it from joining. -/
def isTransparent (c : Char) : Bool :=
  (isNonspacing c && c.toNat ≠ 0x1171e) ||
    [0xcbf, 0xcc6, 0x11a07, 0x11a08, 0x11c3f, 0x1e94b].contains c.toNat

def joinsAfter (c : Char) : Bool :=
  bothSidesRanges.holds c.toNat || afterRanges.holds c.toNat

def joinsBefore (c : Char) : Bool :=
  bothSidesRanges.holds c.toNat || beforeRanges.holds c.toNat

/-- Whether each joiner of a label stands where one may stand; `before` is the text before the rest
of the label, last character first, and `silences` tells the signs that silence a vowel. -/
def joinersFit (silences : Char → Bool) (before : List Char) : List Char → Bool
  | [] => true
  | c :: rest =>
    let afterSilence := before.head?.any silences
    let between :=
      (before.dropWhile isTransparent).head?.any joinsAfter &&
        (rest.dropWhile isTransparent).head?.any joinsBefore
    (if c = '\u200d' then afterSilence
      else if c = '\u200c' then afterSilence || between
      else true) &&
      joinersFit silences (c :: before) rest

end PostMarkup.Url.Domain
