import PostMarkup.Html.Name

/-! # Attributes

Attributes of drawings and formulas have a spelling of their own, and some of them belong to a
language that the first part of their name tells; that part is kept apart as the lead of the name.
-/

namespace PostMarkup.Html

structure Attribute where
  name : String
  value : List Char
  /-- What is written before the name but is no part of it. -/
  lead : String := ""
deriving DecidableEq, Repr

/-- Names of attributes of drawings that mix small and capital letters. -/
def drawingAttributes : List String :=
  ["attributeName", "attributeType", "baseFrequency", "baseProfile", "calcMode",
    "clipPathUnits", "diffuseConstant", "edgeMode", "filterUnits", "glyphRef",
    "gradientTransform", "gradientUnits", "kernelMatrix", "kernelUnitLength", "keyPoints",
    "keySplines", "keyTimes", "lengthAdjust", "limitingConeAngle", "markerHeight",
    "markerUnits", "markerWidth", "maskContentUnits", "maskUnits", "numOctaves", "pathLength",
    "patternContentUnits", "patternTransform", "patternUnits", "pointsAtX", "pointsAtY",
    "pointsAtZ", "preserveAlpha", "preserveAspectRatio", "primitiveUnits", "refX", "refY",
    "repeatCount", "repeatDur", "requiredExtensions", "requiredFeatures", "specularConstant",
    "specularExponent", "spreadMethod", "startOffset", "stdDeviation", "stitchTiles",
    "surfaceScale", "systemLanguage", "tableValues", "targetX", "targetY", "textLength",
    "viewBox", "viewTarget", "xChannelSelector", "yChannelSelector", "zoomAndPan"]

/-- The leads of attributes outside HTML, each with the names that it stands before. -/
def leads : List (String × List String) :=
  [("xlink:", ["actuate", "arcrole", "href", "role", "show", "title", "type"]),
    ("xml:", ["lang", "space"]), ("xmlns:", ["xlink"])]

def Attribute.splitLead (written : Attribute) : Attribute :=
  let found := leads.findSome? fun (lead, names) =>
    (names.find? fun name => lead ++ name = written.name).map fun name => (lead, name)
  match found with
  | some (lead, name) => { written with name, lead }
  | none => written

def Attribute.inVocabulary (vocabulary : Vocabulary) (written : Attribute) : Attribute :=
  match vocabulary with
  | .html => written
  | .svg => { written with name := respell drawingAttributes written.name }.splitLead
  | .math => { written with name := respell ["definitionURL"] written.name }.splitLead

end PostMarkup.Html
