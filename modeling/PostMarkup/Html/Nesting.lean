import PostMarkup.Html.Name

/-! # What may stand in what

A drawing or a formula starts with an element of its own, and only some of its elements hold
anything else. The names of drawings and formulas are no names of HTML, a few apart.
-/

namespace PostMarkup.Html

def drawingElements : List String :=
  ["a", "animate", "animateMotion", "animateTransform", "circle", "clipPath", "defs", "desc",
    "discard", "ellipse", "feBlend", "feColorMatrix", "feComponentTransfer", "feComposite",
    "feConvolveMatrix", "feDiffuseLighting", "feDisplacementMap", "feDistantLight",
    "feDropShadow", "feFlood", "feFuncA", "feFuncB", "feFuncG", "feFuncR", "feGaussianBlur",
    "feImage", "feMerge", "feMergeNode", "feMorphology", "feOffset", "fePointLight",
    "feSpecularLighting", "feSpotLight", "feTile", "feTurbulence", "filter", "foreignObject",
    "g", "image", "line", "linearGradient", "marker", "mask", "metadata", "mpath", "path",
    "pattern", "polygon", "polyline", "radialGradient", "rect", "script", "set", "stop", "style",
    "svg", "switch", "symbol", "text", "textPath", "title", "tspan", "use", "view"]

def formulaElements : List String :=
  ["abs", "and", "annotation", "annotation-xml", "apply", "approx", "arccos", "arccosh",
    "arccot", "arccoth", "arccsc", "arccsch", "arcsec", "arcsech", "arcsin", "arcsinh", "arctan",
    "arctanh", "arg", "bind", "bvar", "card", "cartesianproduct", "cbytes", "ceiling", "cerror",
    "ci", "cn", "codomain", "complexes", "compose", "condition", "conjugate", "cos", "cosh",
    "cot", "coth", "cs", "csc", "csch", "csymbol", "curl", "declare", "degree", "determinant",
    "diff", "divergence", "divide", "domain", "domainofapplication", "emptyset", "eq",
    "equivalent", "eulergamma", "exists", "exp", "exponentiale", "factorial", "factorof",
    "false", "floor", "fn", "forall", "gcd", "geq", "grad", "gt", "ident", "image", "imaginary",
    "imaginaryi", "implies", "in", "infinity", "int", "integers", "intersect", "interval",
    "inverse", "lambda", "laplacian", "lcm", "leq", "limit", "list", "ln", "log", "logbase",
    "lowlimit", "lt", "maction", "maligngroup", "malignmark", "math", "matrix", "matrixrow",
    "max", "mean", "median", "menclose", "merror", "mfenced", "mfrac", "mfraction", "mglyph",
    "mi", "min", "minus", "mlabeledtr", "mlongdiv", "mmultiscripts", "mn", "mo", "mode",
    "moment", "momentabout", "mover", "mpadded", "mphantom", "mprescripts", "mroot", "mrow",
    "ms", "mscarries", "mscarry", "msgroup", "msline", "mspace", "msqrt", "msrow", "mstack",
    "mstyle", "msub", "msubsup", "msup", "mtable", "mtd", "mtext", "mtr", "munder", "munderover",
    "naturalnumbers", "neq", "none", "not", "notanumber", "note", "notin", "notprsubset",
    "notsubset", "or", "otherwise", "outerproduct", "partialdiff", "pi", "piece", "piecewise",
    "plus", "power", "primes", "product", "prsubset", "quotient", "rationals", "real", "reals",
    "reln", "rem", "root", "scalarproduct", "sdev", "sec", "sech", "selector", "semantics",
    "sep", "set", "setdiff", "share", "sin", "sinh", "span", "subset", "sum", "tan", "tanh",
    "tendsto", "times", "transpose", "true", "union", "uplimit", "variance", "vector",
    "vectorproduct", "xor"]

/-- Names that elements of HTML share with drawings and formulas. -/
def sharedNames : List String := ["a", "font", "script", "span", "style", "title"]

def Vocabulary.hasName (name : String) : Vocabulary → Bool
  | html =>
    sharedNames.contains name ||
      !(drawingElements.contains name || formulaElements.contains name)
  | svg => drawingElements.contains name
  | math => formulaElements.contains name

/-- Whether an element of a drawing or a formula may hold elements of another vocabulary. -/
def ElementName.holdsOthers (parent : ElementName) : Bool :=
  match parent.vocabulary with
  | .html => false
  | .svg => parent.name = "foreignObject"
  | .math => parent.holdsMathText || parent.name = "annotation-xml"

/-- Whether an element may stand directly in another one. -/
def ElementName.mayHold (parent child : ElementName) : Bool :=
  if parent.vocabulary = child.vocabulary then child.vocabulary.hasName child.name
  else match parent.vocabulary, child.vocabulary with
    | .html, .svg => child.name = "svg"
    | .html, _ => child.name = "math"
    | _, .html => parent.holdsOthers && Vocabulary.html.hasName child.name
    | _, _ => parent.holdsOthers

end PostMarkup.Html
