import HeadAudit.Markup.Token
import HeadAudit.Text.Ascii

namespace HeadAudit.Markup

inductive Space where
  | html
  | svg
  | mathml
  deriving DecidableEq

namespace Foreign

def svgTags : List String :=
  ["altGlyph", "altGlyphDef", "altGlyphItem", "animateColor", "animateMotion", "animateTransform",
   "clipPath", "feBlend", "feColorMatrix", "feComponentTransfer", "feComposite",
   "feConvolveMatrix", "feDiffuseLighting", "feDisplacementMap", "feDistantLight", "feDropShadow",
   "feFlood", "feFuncA", "feFuncB", "feFuncG", "feFuncR", "feGaussianBlur", "feImage", "feMerge",
   "feMergeNode", "feMorphology", "feOffset", "fePointLight", "feSpecularLighting", "feSpotLight",
   "feTile", "feTurbulence", "foreignObject", "glyphRef", "linearGradient", "radialGradient",
   "textPath"]

def svgAttributes : List String :=
  ["attributeName", "attributeType", "baseFrequency", "baseProfile", "calcMode", "clipPathUnits",
   "diffuseConstant", "edgeMode", "filterUnits", "glyphRef", "gradientTransform", "gradientUnits",
   "kernelMatrix", "kernelUnitLength", "keyPoints", "keySplines", "keyTimes", "lengthAdjust",
   "limitingConeAngle", "markerHeight", "markerUnits", "markerWidth", "maskContentUnits",
   "maskUnits", "numOctaves", "pathLength", "patternContentUnits", "patternTransform",
   "patternUnits", "pointsAtX", "pointsAtY", "pointsAtZ", "preserveAlpha", "preserveAspectRatio",
   "primitiveUnits", "refX", "refY", "repeatCount", "repeatDur", "requiredExtensions",
   "requiredFeatures", "specularConstant", "specularExponent", "spreadMethod", "startOffset",
   "stdDeviation", "stitchTiles", "surfaceScale", "systemLanguage", "tableValues", "targetX",
   "targetY", "textLength", "viewBox", "viewTarget", "xChannelSelector", "yChannelSelector",
   "zoomAndPan"]

def qualified : List (String × String) :=
  [("xlink:actuate", "actuate"), ("xlink:arcrole", "arcrole"), ("xlink:href", "href"),
   ("xlink:role", "role"), ("xlink:show", "show"), ("xlink:title", "title"),
   ("xlink:type", "type"), ("xml:lang", "lang"), ("xml:space", "space"),
   ("xmlns:xlink", "xlink")]

def spelled (names : List String) (name : String) : String :=
  (names.find? fun known => Ascii.lower known == name).getD name

def attributeName (space : Space) (name : String) : String :=
  let spelled :=
    match space with
    | .svg => spelled svgAttributes name
    | .mathml => if name == "definitionurl" then "definitionURL" else name
    | .html => name
  (qualified.lookup spelled).getD spelled

def withAttributesOf (space : Space) (tag : Tag) : Tag :=
  { tag with attrs := tag.attrs.map fun (name, value) => (attributeName space name, value) }

def namedIn (space : Space) (tag : Tag) : Tag :=
  let tag := withAttributesOf space tag
  if space == .svg then { tag with name := spelled svgTags tag.name } else tag

def mathTexts : List String := ["mi", "mn", "mo", "ms", "mtext"]

def htmlHolders : List String := ["desc", "foreignObject", "title"]

def breakouts : List String :=
  ["b", "big", "blockquote", "body", "br", "center", "code", "dd", "div", "dl", "dt", "em", "embed",
   "h1", "h2", "h3", "h4", "h5", "h6", "head", "hr", "i", "img", "li", "listing", "menu", "meta",
   "nobr", "ol", "p", "pre", "ruby", "s", "small", "span", "strike", "strong", "sub", "sup",
   "table", "tt", "u", "ul", "var"]

def breaksOut (tag : Tag) : Bool :=
  tag.name ∈ breakouts ||
    (tag.name == "font" && tag.attrs.any fun (name, _) => name ∈ ["color", "face", "size"])

def annotatesHtml (tag : Tag) : Bool :=
  tag.name == "annotation-xml" &&
    (tag.attrs.lookup "encoding").any fun encoding =>
      Ascii.same encoding "text/html" || Ascii.same encoding "application/xhtml+xml"

end Foreign

end HeadAudit.Markup
