import PostMarkup.Unicode.CombiningClass

/-! # Composed text

Many letters with marks can be written as one character or as several. The composed form of a text
is the same for all ways to write it: every character is taken apart, the marks are put into the
order of their classes, and each mark joins the character it belongs to where a single character
stands for both.
-/

namespace PostMarkup.Unicode

/-- Second characters of pairs; under each of them the first characters and what the pairs compose
to, by turns. -/
def compositionRows : List (Char × String) := [
  ('\u0300', "AÀEÈIÌOÒUÙaàeèiìoòuùÜǛüǜNǸnǹЕЀИЍеѐиѝĒḔēḕŌṐōṑWẀwẁÂẦâầĂẰăằÊỀêềÔỒôồƠỜơờƯỪưừYỲ"),
  ('\u0300', "yỳἀἂἁἃἈἊἉἋἐἒἑἓἘἚἙἛἠἢἡἣἨἪἩἫἰἲἱἳἸἺἹἻὀὂὁὃὈὊὉὋὐὒὑὓὙὛὠὢὡὣὨὪὩὫαὰεὲηὴιὶοὸυὺωὼΑᾺΕῈ"),
  ('\u0300', "ΗῊ᾿῍ϊῒΙῚ῾῝ϋῢΥῪ¨῭ΟῸΩῺ"),
  ('\u0301', "AÁEÉIÍOÓUÚYÝaáeéiíoóuúyýCĆcćLĹlĺNŃnńRŔrŕSŚsśZŹzźÜǗüǘGǴgǵÅǺåǻÆǼæǽØǾøǿ¨΅ΑΆΕΈ"),
  ('\u0301', "ΗΉΙΊΟΌΥΎΩΏϊΐαάεέηήιίϋΰοόυύωώϒϓГЃКЌгѓкќÇḈçḉĒḖēḗÏḮïḯKḰkḱMḾmḿÕṌõṍŌṒōṓPṔpṕŨṸũṹ"),
  ('\u0301', "WẂwẃÂẤâấĂẮăắÊẾêếÔỐôốƠỚơớƯỨưứἀἄἁἅἈἌἉἍἐἔἑἕἘἜἙἝἠἤἡἥἨἬἩἭἰἴἱἵἸἼἹἽὀὄὁὅὈὌὉὍὐὔὑὕὙὝ"),
  ('\u0301', "ὠὤὡὥὨὬὩὭ᾿῎῾῞"),
  ('\u0302', "AÂEÊIÎOÔUÛaâeêiîoôuûCĈcĉGĜgĝHĤhĥJĴjĵSŜsŝWŴwŵYŶyŷZẐzẑẠẬạậẸỆẹệỌỘọộ"),
  ('\u0303', "AÃNÑOÕaãnñoõIĨiĩUŨuũVṼvṽÂẪâẫĂẴăẵEẼeẽÊỄêễÔỖôỗƠỠơỡƯỮưữYỸyỹ"),
  ('\u0304', "AĀaāEĒeēIĪiīOŌoōUŪuūÜǕüǖÄǞäǟȦǠȧǡÆǢæǣǪǬǫǭÖȪöȫÕȬõȭȮȰȯȱYȲyȳИӢиӣУӮуӯGḠgḡḶḸḷḹṚṜ"),
  ('\u0304', "ṛṝαᾱΑᾹιῑΙῙυῡΥῩ"),
  ('\u0306', "AĂaăEĔeĕGĞgğIĬiĭOŎoŏUŬuŭУЎИЙийуўЖӁжӂАӐаӑЕӖеӗȨḜȩḝẠẶạặαᾰΑᾸιῐΙῘυῠΥῨ"),
  ('\u0307', "CĊcċEĖeėGĠgġIİZŻzżAȦaȧOȮoȯBḂbḃDḊdḋFḞfḟHḢhḣMṀmṁNṄnṅPṖpṗRṘrṙSṠsṡŚṤśṥŠṦšṧṢṨṣṩ"),
  ('\u0307', "TṪtṫWẆwẇXẊxẋYẎyẏſẛ𐗒𐗉𐗚𐗤"),
  ('\u0308', "AÄEËIÏOÖUÜaäeëiïoöuüyÿYŸΙΪΥΫιϊυϋϒϔЕЁІЇеёіїАӒаӓӘӚәӛЖӜжӝЗӞзӟИӤиӥОӦоӧӨӪөӫЭӬэӭ"),
  ('\u0308', "УӰуӱЧӴчӵЫӸыӹHḦhḧÕṎõṏŪṺūṻWẄwẅXẌxẍtẗ"),
  ('\u0309', "AẢaảÂẨâẩĂẲăẳEẺeẻÊỂêểIỈiỉOỎoỏÔỔôổƠỞơởUỦuủƯỬưửYỶyỷ"), ('\u030a', "AÅaåUŮuůwẘyẙ"),
  ('\u030b', "OŐoőUŰuűУӲуӳ"),
  ('\u030c', "CČcčDĎdďEĚeěLĽlľNŇnňRŘrřSŠsšTŤtťZŽzžAǍaǎIǏiǐOǑoǒUǓuǔÜǙüǚGǦgǧKǨkǩƷǮʒǯjǰHȞhȟ"),
  ('\u030f', "AȀaȁEȄeȅIȈiȉOȌoȍRȐrȑUȔuȕѴѶѵѷ"), ('\u0311', "AȂaȃEȆeȇIȊiȋOȎoȏRȒrȓUȖuȗ"),
  ('\u0313', "αἀΑἈεἐΕἘηἠΗἨιἰΙἸοὀΟὈυὐωὠΩὨρῤ"), ('\u0314', "αἁΑἉεἑΕἙηἡΗἩιἱΙἹοὁΟὉυὑΥὙωὡΩὩρῥΡῬ"),
  ('\u031b', "OƠoơUƯuư"),
  ('\u0323', "BḄbḅDḌdḍHḤhḥKḲkḳLḶlḷMṂmṃNṆnṇRṚrṛSṢsṣTṬtṭVṾvṿWẈwẉZẒzẓAẠaạEẸeẹIỊiịOỌoọƠỢơợUỤ"),
  ('\u0323', "uụƯỰưựYỴyỵ"), ('\u0324', "UṲuṳ"), ('\u0325', "AḀaḁ"), ('\u0326', "SȘsșTȚtț"),
  ('\u0327', "CÇcçGĢgģKĶkķLĻlļNŅnņRŖrŗSŞsşTŢtţEȨeȩDḐdḑHḨhḩ"), ('\u0328', "AĄaąEĘeęIĮiįUŲuųOǪoǫ"),
  ('\u032d', "DḒdḓEḘeḙLḼlḽNṊnṋTṰtṱUṶuṷ"), ('\u032e', "HḪhḫ"), ('\u0330', "EḚeḛIḬiḭUṴuṵ"),
  ('\u0331', "BḆbḇDḎdḏKḴkḵLḺlḻNṈnṉRṞrṟTṮtṯZẔzẕhẖ"),
  ('\u0338', "←↚→↛↔↮⇐⇍⇔⇎⇒⇏∃∄∈∉∋∌∣∤∥∦∼≁≃≄≅≇≈≉=≠≡≢≍≭<≮>≯≤≰≥≱≲≴≳≵≶≸≷≹≺⊀≻⊁⊂⊄⊃⊅⊆⊈⊇⊉⊢⊬⊨⊭⊩⊮⊫⊯≼⋠"),
  ('\u0338', "≽⋡⊑⋢⊒⋣⊲⋪⊳⋫⊴⋬⊵⋭"),
  ('\u0342', "ἀἆἁἇἈἎἉἏἠἦἡἧἨἮἩἯἰἶἱἷἸἾἹἿὐὖὑὗὙὟὠὦὡὧὨὮὩὯαᾶ¨῁ηῆ᾿῏ιῖϊῗ῾῟υῦϋῧωῶ"),
  ('\u0345', "ἀᾀἁᾁἂᾂἃᾃἄᾄἅᾅἆᾆἇᾇἈᾈἉᾉἊᾊἋᾋἌᾌἍᾍἎᾎἏᾏἠᾐἡᾑἢᾒἣᾓἤᾔἥᾕἦᾖἧᾗἨᾘἩᾙἪᾚἫᾛἬᾜἭᾝἮᾞἯᾟὠᾠὡᾡὢᾢὣᾣὤᾤ"),
  ('\u0345', "ὥᾥὦᾦὧᾧὨᾨὩᾩὪᾪὫᾫὬᾬὭᾭὮᾮὯᾯὰᾲαᾳάᾴᾶᾷΑᾼὴῂηῃήῄῆῇΗῌὼῲωῳώῴῶῷΩῼ"), ('\u0653', "اآ"),
  ('\u0654', "اأوؤيئەۀہۂےۓ"), ('\u0655', "اإ"), ('\u093c', "नऩरऱळऴ"), ('\u09be', "\u09c7\u09cb"),
  ('\u09d7', "\u09c7\u09cc"), ('\u0b3e', "\u0b47\u0b4b"), ('\u0b56', "\u0b47\u0b48"),
  ('\u0b57', "\u0b47\u0b4c"), ('\u0bbe', "\u0bc6\u0bca\u0bc7\u0bcb"), ('\u0bd7', "ஒஔ\u0bc6\u0bcc"),
  ('\u0c56', "\u0c46\u0c48"), ('\u0cc2', "\u0cc6\u0cca"),
  ('\u0cd5', "\u0cbf\u0cc0\u0cc6\u0cc7\u0cca\u0ccb"), ('\u0cd6', "\u0cc6\u0cc8"),
  ('\u0d3e', "\u0d46\u0d4a\u0d47\u0d4b"), ('\u0d57', "\u0d46\u0d4c"),
  ('\u0dca', "\u0dd9\u0dda\u0ddc\u0ddd"), ('\u0dcf', "\u0dd9\u0ddc"), ('\u0ddf', "\u0dd9\u0dde"),
  ('\u102e', "ဥဦ"),
  ('\u1b35', "ᬅᬆᬇᬈᬉᬊᬋᬌᬍᬎᬑᬒ\u1b3a\u1b3b\u1b3c\u1b3d\u1b3e\u1b40\u1b3f\u1b41\u1b42\u1b43"),
  ('\u3099', "かがきぎくぐけげこごさざしじすずせぜそぞただちぢつづてでとどはばひびふぶへべほぼうゔゝゞカガキギクグケゲコゴサザシジスズセゼソゾタダチヂツヅテデトド"),
  ('\u3099', "ハバヒビフブヘベホボウヴワヷヰヸヱヹヲヺヽヾ"), ('\u309a', "はぱひぴふぷへぺほぽハパヒピフプヘペホポ"), ('𑂺', "𑂙𑂚𑂛𑂜𑂥𑂫"),
  ('𑄧', "𑄱𑄮𑄲𑄯"), ('𑌾', "𑍇𑍋"), ('𑍗', "𑍇𑍌"), ('𑎸', "𑏅𑎸"), ('𑎻', "𑎄𑎅"), ('𑏂', "𑎋𑎎𑏅𑏂"),
  ('𑏉', "𑎂𑎃𑎐𑎑𑏅𑏉"), ('𑒰', "𑒹𑒼"), ('𑒺', "𑒹𑒻"), ('𑒽', "𑒹𑒾"), ('𑖯', "𑖸𑖺𑖹𑖻"), ('𑤰', "𑤵𑤸"), ('𖄞', "𖄡𖄞"),
  ('𖄟', "𖄦𖄩𖄤𖄡𖄦𖄢𖄧"), ('𖄠', "𖄨𖄡𖄨"), ('𖄩', "𖄡𖄩"), ('𖵧', "𖵨𖵧𖵣𖵩𖵩𖵪")]

def pairsOfRow (second : Char) : List Char → List (Char × Char × Char)
  | first :: composed :: rest => (first, second, composed) :: pairsOfRow second rest
  | _ => []

def compositions : List (Char × Char × Char) :=
  compositionRows.flatMap fun (second, row) => pairsOfRow second row.toList

/-- The first syllable of Hangul, and how many syllables start with one consonant. -/
def firstSyllable : Nat := 0xac00

/-- How many syllables share their first consonant and vowel. -/
def finalCount : Nat := 28

/-- How many syllables share their first consonant. -/
def vowelFinalCount : Nat := 588

/-- The syllable that a consonant and a vowel, or a syllable and a final consonant, compose to. -/
def composeSyllable? (first second : Nat) : Option Char :=
  if 0x1100 ≤ first ∧ first < 0x1113 ∧ 0x1161 ≤ second ∧ second < 0x1176 then
    some (Char.ofNat
      (firstSyllable + (first - 0x1100) * vowelFinalCount + (second - 0x1161) * finalCount))
  else if firstSyllable ≤ first ∧ first < 0xd7a4 ∧ (first - firstSyllable) % finalCount = 0 ∧
      0x11a7 < second ∧ second < 0x11c3 then
    some (Char.ofNat (first + (second - 0x11a7)))
  else none

def compose? (first second : Char) : Option Char :=
  (composeSyllable? first.toNat second.toNat).or <|
    (compositions.find? fun pair => pair.1 = first && pair.2.1 = second).map fun pair => pair.2.2

/-- The pair that a character is composed of. -/
def decompose? (c : Char) : Option (Char × Char) :=
  if firstSyllable ≤ c.toNat ∧ c.toNat < 0xd7a4 then
    let index := c.toNat - firstSyllable
    if index % finalCount = 0 then
      some (Char.ofNat (0x1100 + index / vowelFinalCount),
        Char.ofNat (0x1161 + index % vowelFinalCount / finalCount))
    else
      some (Char.ofNat (c.toNat - index % finalCount), Char.ofNat (0x11a7 + index % finalCount))
  else (compositions.find? fun pair => pair.2.2 = c).map fun pair => (pair.1, pair.2.1)

/-- The characters that a character is composed of, with at most this many marks taken off. -/
def takeApart : Nat → Char → List Char
  | 0, c => [c]
  | depth + 1, c =>
    match decompose? c with
    | some (first, second) => takeApart depth first ++ [second]
    | none => [c]

/-- The greatest number of marks that a single character is composed with. -/
def maxMarks : Nat := 4

/-- Text in the order of classes with a character in front, which moves behind marks of a lower
class. -/
def insertMark (c : Char) : List Char → List Char
  | [] => [c]
  | next :: rest =>
    if 0 < combiningClass next ∧ combiningClass next < combiningClass c then
      next :: insertMark c rest
    else c :: next :: rest

/-- A text taken apart, with its marks in the order of their classes. -/
def decomposed (text : List Char) : List Char :=
  (text.flatMap (takeApart maxMarks)).foldr insertMark []

/-- Composed text whose first character is `base`, followed by marks that do not compose with it,
last one first, and by further text. -/
def composeFrom (base : Char) (marks : List Char) : List Char → List Char
  | [] => base :: marks.reverse
  | c :: rest =>
    let reaches := marks.head?.all fun last => combiningClass last < combiningClass c
    match if reaches then compose? base c else none with
    | some composed => composeFrom composed marks rest
    | none =>
      if combiningClass c = 0 then base :: marks.reverse ++ composeFrom c [] rest
      else composeFrom base (c :: marks) rest

def composed (text : List Char) : List Char :=
  if text.all fun c => c.toNat < 0x80 then text
  else match decomposed text with
    | [] => []
    | first :: rest => composeFrom first [] rest

end PostMarkup.Unicode
