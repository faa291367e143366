import DesktopHost.CommandLine.Reading
import DesktopHost.Text.Terminal

/-!
What the command line answers to a question. Where a setting can come from the environment, the
help shows what is there now.
-/

set_option autoImplicit false

namespace DesktopHost.Help

def programName : String := "bracket-desktop"

def versionNumber : String := "1.0.0"

def versionText : String := programName ++ " " ++ versionNumber ++ "\n"

def summary : String := "Run the Bracket Tournament System as a desktop application"

/-- One option with its names, the name of its value and a description, and the setting whose
variable is shown. -/
structure Entry where
  short : Option String
  long : String
  value : Option String
  description : String
  setting : Option Setting

def entries : List Entry := [
  ⟨none, "--dev", none,
    "Development mode: backend from the repository's dist/, UI from the dev server", none⟩,
  ⟨none, "--port", some "PORT", "Port the backend listens on", some .port⟩,
  ⟨none, "--backend-path", some "BACKEND_PATH",
    "Backend executable to run instead of the bundled one", some .backendPath⟩,
  ⟨none, "--dev-url", some "DEV_URL", "Frontend dev server URL (development mode only)",
    some .devUrl⟩,
  ⟨none, "--shutdown-grace-ms", some "SHUTDOWN_GRACE_MS",
    "Milliseconds between the graceful and the forced termination signal", some .shutdownGrace⟩,
  ⟨none, "--headless", none, "Do not open a browser; only log the URL", none⟩,
  ⟨some "-v", "--verbose", none, "Enable verbose/debug output", none⟩,
  ⟨some "-h", "--help", none, "Print help", none⟩,
  ⟨some "-V", "--version", none, "Print version", none⟩]

/-- The variable of a setting with its present value. -/
def variableText (env : Environment) (s : Setting) : String :=
  match s.envName? with
  | none => ""
  | some name =>
    " [env: " ++ name ++ "=" ++ ((env.get? name).map Utf8.lossy).getD "" ++ "]"

/-- Descriptions stand this far from the margin, on every line. -/
def margin : String := "          "

def indented (text : String) : String :=
  margin ++ String.ofList (text.toList.flatMap fun c =>
    if c == '\n' then '\n' :: margin.toList else [c])

/-- The names of an option, emphasised, with the value it takes. -/
def Entry.usage (e : Entry) : String :=
  "  " ++ (match e.short with | some s => Terminal.emboldened s ++ ", " | none => "    ") ++
    Terminal.emboldened e.long ++ (match e.value with | some v => " <" ++ v ++ ">" | none => "")

def Entry.text (env : Environment) (e : Entry) : String :=
  e.usage ++ "\n" ++ indented (e.description ++ ((e.setting.map (variableText env)).getD "")) ++
    "\n"

/-- The help as a terminal shows it. -/
def text (env : Environment) : String :=
  Terminal.plain (summary ++ "\n\n" ++ Terminal.underlined "Usage:" ++ " " ++
    Terminal.emboldened programName ++ " [OPTIONS]\n\n" ++ Terminal.underlined "Options:" ++ "\n" ++
    String.join (entries.map (·.text env)))

def answer (env : Environment) : Query → String
  | .help => text env
  | .version => versionText

end DesktopHost.Help
