import PostMarkup.BBCode.Table
import PostMarkup.Proofs.BBCode.Pattern
import PostMarkup.Proofs.LinkTarget.Carried
import PostMarkup.Proofs.Text.Lines

/-! # The elements of bracket tags

What replaces a pair of brackets from the builtin table is the opening and the closing tag of an
inline element that is no link. A parameter is written into an attribute, and the patterns of the
table accept no parameter that would end the attribute or the tag.
-/

namespace PostMarkup.BBCode

open PostMarkup.Text PostMarkup.LinkTarget

/-- The elements that bracket tags stand for. -/
def bracketNames : List (List Char) := ["span", "u", "s", "code", "q"].map String.toList

/-- Whether two texts are the tags of such an element. -/
def Encloses (opening closing : List Char) : Prop :=
  ∃ name attributes, name ∈ bracketNames ∧ Attribute.Ordinary attributes ∧
    opening = (Tag.opening name attributes).source ∧ closing = (Tag.stop name).source

/-- Whether a bracket with a value, or without one, may open a definition. -/
def Definition.Takes (definition : Definition) (value : Option (List Char)) : Prop :=
  match definition.parameter, value with
  | none, none => True
  | some parameter, some value => parameter.pattern.accepts value = true
  | _, _ => False

instance : (definition : Definition) → DecidablePred definition.Takes
  | { parameter := none, .. }, none => .isTrue trivial
  | { parameter := some parameter, .. }, some value => inferInstanceAs (Decidable (parameter.pattern.accepts value = true))
  | { parameter := none, .. }, some _ => .isFalse id
  | { parameter := some _, .. }, none => .isFalse id

/-- Whether a definition writes the tags of an element. -/
def Definition.IsSound (definition : Definition) : Prop :=
  ∀ value, definition.Takes value → Encloses (definition.openWith value) definition.htmlClose

/-- Whether the definitions of a table write the tags of elements. -/
def Table.IsSound (table : Table) : Prop :=
  ∀ name definition, table.get? name = some definition → definition.IsSound

/-- Characters that end an attribute, a tag or a place, or that stand for others. -/
def specialChars : List Char := "\n\"%&<>".toList

/-- The opening tag of a span with one attribute. -/
def spanWith (name : String) (value : List Char) : List Char :=
  "<span ".toList ++ name.toList ++ "=\"".toList ++ value ++ "\">".toList

theorem spanWith_eq (name : String) (value : List Char) :
    spanWith name value = (Tag.opening "span".toList [.valued name.toList value]).source := by
  have front : "<span ".toList = '<' :: "span".toList ++ [' '] := by decide
  have back : "\">".toList = ['"', '>'] := by decide
  unfold spanWith Tag.opening Tag.start
  rw [front, back, Attribute.written_cons, Attribute.written_nil, Attribute.source]
  simp only [List.append_assoc, List.cons_append, List.nil_append, List.append_nil]

theorem spanWith_encloses {name : String} {value : List Char}
    (named : Attribute.isName name.toList = true) (other : name.toList ≠ marker)
    (plain : ∀ c ∈ specialChars, c ∉ value) : Encloses (spanWith name value) "</span>".toList := by
  have special : ∀ c ∈ "&<>\"".toList, c ∈ specialChars := by decide
  have written : escapeAttribute value = value :=
    escapeAttribute_of_plain fun c member inside => plain c (special c inside) member
  refine ⟨"span".toList, [.valued name.toList value], by decide, ?_, spanWith_eq name value, by decide⟩
  exact List.forall_mem_singleton.mpr ⟨⟨named, value, plain '\n' (by decide), written.symm⟩, other⟩

theorem spanWith_place {name : String} {token front back : List Char} (value : List Char)
    (named : Attribute.isName name.toList = true) (clean : '%' ∉ front) (clean' : '%' ∉ back) :
    replaceAll ('%' :: token ++ ['%']) value (spanWith name (front ++ ('%' :: token ++ ['%']) ++ back)) =
      spanWith name (front ++ value ++ back) := by
  have word : '%' ∉ name.toList := Attribute.not_mem_of_isName named (by decide)
  have lead : '%' ∉ "<span ".toList ++ name.toList ++ "=\"".toList ++ front := by
    simp only [List.mem_append, not_or]
    exact ⟨⟨⟨by decide, word⟩, by decide⟩, clean⟩
  have ending : '%' ∉ back ++ "\">".toList := by
    simp only [List.mem_append, not_or]
    exact ⟨clean', by decide⟩
  have replaced : replaceAll ('%' :: (token ++ ['%'])) value _ = _ := replaceAll_place lead ending
  unfold spanWith
  simp only [List.append_assoc, List.cons_append] at replaced ⊢
  exact replaced

section Sound

variable {definition : Definition} {parameter : Parameter}

theorem isSound_of_none (given : definition.parameter = none)
    (encloses : Encloses definition.htmlOpen definition.htmlClose) : definition.IsSound := by
  intro value taken
  simpa [Definition.openWith, given] using encloses

/-- An element without attributes. -/
theorem isSound_of_bare (name : List Char) (given : definition.parameter = none)
    (known : name ∈ bracketNames) (opening : definition.htmlOpen = (Tag.opening name []).source)
    (closing : definition.htmlClose = (Tag.stop name).source) : definition.IsSound :=
  isSound_of_none given ⟨name, [], known, Attribute.ordinary_nil, opening, closing⟩

/-- A span with a fixed attribute. -/
theorem isSound_of_span (name : String) (value : List Char) (given : definition.parameter = none)
    (opening : definition.htmlOpen = spanWith name value)
    (closing : definition.htmlClose = "</span>".toList)
    (named : Attribute.isName name.toList = true) (other : name.toList ≠ marker)
    (plain : ∀ c ∈ specialChars, c ∉ value) : definition.IsSound := by
  apply isSound_of_none given
  rw [opening, closing]
  exact spanWith_encloses named other plain

/-- A parameter without special characters stays inside its attribute. -/
theorem isSound_of_place (name front back : String) (given : definition.parameter = some parameter)
    (opening : definition.htmlOpen =
      spanWith name (front.toList ++ ('%' :: parameter.token ++ ['%']) ++ back.toList))
    (closing : definition.htmlClose = "</span>".toList)
    (named : Attribute.isName name.toList = true) (other : name.toList ≠ marker)
    (plain : ∀ c ∈ specialChars,
      c ∉ front.toList ∧ c ∉ back.toList ∧ parameter.pattern.avoids c = true) :
    definition.IsSound := by
  intro value taken
  cases value with
  | none => simp [Definition.Takes, given] at taken
  | some value =>
    have accepted : parameter.pattern.accepts value = true := by
      simpa [Definition.Takes, given] using taken
    have opened : definition.openWith (some value) = spanWith name (front.toList ++ value ++ back.toList) := by
      have percent := plain '%' (by decide)
      simp only [Definition.openWith, given, opening]
      exact spanWith_place value named percent.1 percent.2.1
    rw [opened, closing]
    apply spanWith_encloses named other
    intro c special
    obtain ⟨before, after, avoided⟩ := plain c special
    have inside : c ∉ value := Pattern.not_mem_of_accepts avoided accepted
    simp only [List.mem_append, not_or]
    exact ⟨⟨before, inside⟩, after⟩

end Sound

def fontFamily : List Char := "font-family: 'kozuka-gothic-pro', sans-serif; ".toList

def slant : List Char := "font-style: italic; -moz-font-feature-settings: 'ital'; ".toList

def features : List Char :=
  "-webkit-font-feature-settings: 'ital'; font-feature-settings: 'ital';".toList

theorem slanted_is_plain : ∀ c ∈ specialChars, c ∉ fontFamily ∧ c ∉ slant ∧ c ∉ features := by decide

theorem spanWith_fontFamily (value : List Char) :
    "<span style=\"font-family: 'kozuka-gothic-pro', sans-serif; ".toList ++ (value ++ "\">".toList) =
      spanWith "style" (fontFamily ++ value) := by
  have front : "<span style=\"font-family: 'kozuka-gothic-pro', sans-serif; ".toList =
      "<span ".toList ++ "style".toList ++ "=\"".toList ++ fontFamily := by decide
  unfold spanWith
  rw [front]
  simp only [List.append_assoc]

theorem bold_opening :
    ("<span style=\"font-family: 'kozuka-gothic-pro', sans-serif; " ++ "font-weight: 900;\">").toList =
      spanWith "style" (fontFamily ++ "font-weight: 900;".toList) := by
  have back : "font-weight: 900;\">".toList = "font-weight: 900;".toList ++ "\">".toList := by decide
  rw [String.toList_append, back]
  exact spanWith_fontFamily _

theorem slanted_opening :
    ("<span style=\"font-family: 'kozuka-gothic-pro', sans-serif; " ++
      "font-style: italic; -moz-font-feature-settings: 'ital'; " ++
      "-webkit-font-feature-settings: 'ital'; font-feature-settings: 'ital';\">").toList =
      spanWith "style" (fontFamily ++ (slant ++ features)) := by
  have back : "-webkit-font-feature-settings: 'ital'; font-feature-settings: 'ital';\">".toList =
      features ++ "\">".toList := by decide
  have opening := spanWith_fontFamily (slant ++ features)
  rw [String.toList_append, String.toList_append, back, ← opening]
  unfold slant
  simp only [List.append_assoc]

theorem isSound_builtin : Table.builtin.IsSound := by
  have each : ∀ definition ∈ Table.builtin.definitions, definition.IsSound := by
    simp only [Table.builtin, Definition.make, List.forall_mem_cons]
    refine ⟨?_, ?_, ?_, ?_, ?_, ?_, ?_, ?_, ?_, ?_, ?_, ?_, ?_, by simp⟩
    · exact isSound_of_span "style" _ rfl bold_opening rfl (by decide) (by decide) (by decide)
    · refine isSound_of_span "style" (fontFamily ++ (slant ++ features)) rfl ?_ rfl (by decide)
        (by decide) fun c special => ?_
      · with_reducible exact slanted_opening
      · obtain ⟨family, style, last⟩ := slanted_is_plain c special
        simp only [List.mem_append, not_or]
        exact ⟨family, style, last⟩
    · exact isSound_of_bare "u".toList rfl (by decide) (by decide) (by decide)
    · exact isSound_of_bare "s".toList rfl (by decide) (by decide) (by decide)
    · exact isSound_of_bare "code".toList rfl (by decide) (by decide) (by decide)
    · exact isSound_of_bare "q".toList rfl (by decide) (by decide) (by decide)
    · exact isSound_of_place "style" "color: " ";" rfl (by decide) rfl (by decide) (by decide) (by decide)
    · exact isSound_of_place "style" "font-size: " "px;" rfl (by decide) rfl (by decide) (by decide)
        (by decide)
    · exact isSound_of_span "class" "fa fa-spin".toList rfl (by decide) rfl (by decide) (by decide)
        (by decide)
    · exact isSound_of_span "class" "bbcode-pulse-loading".toList rfl (by decide) rfl (by decide)
        (by decide) (by decide)
    · exact isSound_of_place "class" "fa fa-flip-" "" rfl (by decide) rfl (by decide) (by decide)
        (by decide)
    · exact isSound_of_place "class" "fa fa-" "" rfl (by decide) rfl (by decide) (by decide) (by decide)
    · exact isSound_of_place "style" "color: #" "" rfl (by decide) rfl (by decide) (by decide) (by decide)
  intro name definition found
  exact each definition (List.mem_of_find?_eq_some found)

end PostMarkup.BBCode
