import TableAssembler.Format.Starlark.Config
import TableAssembler.Format.Yaml.Config
import TableAssembler.Text.Path

/-!
# Configuration files

The extension of a file tells the format of its configuration.
-/

namespace TableAssembler
namespace Config

/-- Loads a configuration from a file. -/
def load (directory : Directory) (path : String) : Except ConfigFault Config := do
  let bytes ← (directory.read path).mapError .file
  match Path.extension path with
  | ".star" => Starlark.load bytes
  | ".yaml" | ".yml" => Yaml.load bytes
  | extension => .error (.unknownFormat extension)

end Config
end TableAssembler
