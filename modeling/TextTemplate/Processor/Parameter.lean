/-
The parameter processor: each parameter directive becomes a public property, which starts with the
value from outside if there is one.
-/
import TextTemplate.Processor.Basic
import TextTemplate.Code.Literal

namespace TextTemplate

/-- The type behind a keyword of the generated language. Other names stand for themselves, and no
name means a string. -/
def mapTypeName (name : Text) : Text :=
  if name.isEmpty then utf8 "System.String"
  else ((keywordTypes.find? (·.1 == name)).map Prod.snd).getD name
where
  keywordTypes : List (Text × Text) :=
    [(utf8 "bool", utf8 "System.Boolean"), (utf8 "byte", utf8 "System.Byte"),
      (utf8 "sbyte", utf8 "System.SByte"), (utf8 "char", utf8 "System.Char"),
      (utf8 "decimal", utf8 "System.Decimal"), (utf8 "double", utf8 "System.Double"),
      (utf8 "float", utf8 "System.Single"), (utf8 "int", utf8 "System.Int32"),
      (utf8 "uint", utf8 "System.UInt32"), (utf8 "long", utf8 "System.Int64"),
      (utf8 "ulong", utf8 "System.UInt64"), (utf8 "object", utf8 "System.Object"),
      (utf8 "short", utf8 "System.Int16"), (utf8 "ushort", utf8 "System.UInt16"),
      (utf8 "string", utf8 "System.String")]

namespace ParameterProcessor

/-- The name the parameter processor is registered under. -/
def name : Text := utf8 "ParameterDirectiveProcessor"

/-- The directive it owns. -/
def directive : Text := utf8 "parameter"

/-- The initial value of a property: the literal itself for a string, a conversion otherwise. -/
def initialValue (w : Writer) (type value : Text) : Text :=
  let literal := (w.quoteEscaped value).text
  if type = utf8 "System.String" then literal
  else utf8 "(" ++ type ++ utf8 ")System.Convert.ChangeType(" ++ literal ++ utf8 ", typeof("
    ++ type ++ utf8 "), System.Globalization.CultureInfo.InvariantCulture)"

/-- Writes the property of a parameter directive. -/
def process (values : Option ParameterValues) (w : Writer) (directive : Text)
    (attributes : Attributes) : Contribution :=
  match (attributes.get? (utf8 "name")).getD [] with
  | [] => ⟨w, [], some .missingParameterName⟩
  | parameter =>
    let type := mapTypeName ((attributes.get? (utf8 "type")).getD [])
    let initial := match values.bind (fun v => v name directive parameter) with
      | some value => initialValue w type value
      | none => []
    ⟨w.autoProperty type parameter initial .isPublic .isPublic 0, [], none⟩

/-- The processor of parameter directives. -/
def processor {σ : Type} : Processor σ :=
  { Processor.idle with
    takeParameters := some id
    supports := fun d => d.eqFold directive
    process := fun values w d attributes s => (process values w d attributes, s) }

end ParameterProcessor
end TextTemplate
