/-
Loading configurations. The end of its name says what a configuration file is written in: YAML for
`.yaml` and `.yml`, otherwise HCL.
-/
import TextTemplate.Config.Hcl
import TextTemplate.Config.Yaml

namespace TextTemplate

/-- Why a configuration cannot be loaded. -/
inductive ConfigError where
  | unreadable (error : FileError)
  | yaml
  | hclSyntax
  | hclContent
  deriving DecidableEq, Repr

def ConfigError.message : ConfigError → Text
  | unreadable error => utf8 "reading config file: " ++ error.message
  | yaml => utf8 "parsing YAML"
  | hclSyntax => utf8 "parsing HCL"
  | hclContent => utf8 "decoding HCL"

namespace Config

/-- The configuration written in HCL, under an environment. -/
def ofHcl (env : List (Text × Text)) (content : Text) : Except ConfigError Config :=
  match Hcl.readFile content with
  | none => .error .hclSyntax
  | some body =>
    (ofBody? (environmentScope (env.filter (!·.1.isEmpty))) body).elim (.error .hclContent) .ok

/-- The configuration of a file; its relative paths are taken from the directory of the file. -/
def load (files : Files) (env : List (Text × Text)) (path : Text) : Except ConfigError Config :=
  match files.read path with
  | .error e => .error (.unreadable e)
  | .ok content =>
    let config :=
      if (utf8 ".yaml").isSuffixOf path || (utf8 ".yml").isSuffixOf path then
        (ofYaml? content).elim (.error .yaml) .ok
      else ofHcl env content
    config.map ({ · with dir := Path.dir path })

end Config
end TextTemplate
