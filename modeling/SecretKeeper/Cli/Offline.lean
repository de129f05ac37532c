/-
# Without an API server

What the command line comes to where no API server can be reached: help is printed, a misuse
is refused, and a command fails before it does anything.
-/
import SecretKeeper.Cli.Usage

namespace SecretKeeper.Cli

/-- How the program exits, and what it prints. -/
structure Exit where
  code : Nat
  output : String := ""
  errorOutput : String := ""
deriving DecidableEq

namespace Request

/-- The exit where no API server can be reached. -/
def offline : Request → Exit
  | .help topic => { code := 0, output := topic.text }
  | .misuse =>
    { code := 2
      errorOutput := "error: the command line makes no sense\n\n" ++
        "For more information, try '--help'.\n" }
  | .run _ _ =>
    { code := 1
      errorOutput := "Error: Failed to create Kubernetes client. " ++
        "Ensure kubeconfig is configured.\n" }

end Request

end SecretKeeper.Cli
