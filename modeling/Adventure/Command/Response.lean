import Adventure.Bridge.Listing
import Adventure.Command.Report

/-!
# Responses

What the program answers to a command line, up to the point where it has to touch a file: a text to
print, possibly with a report to save, or why there is none. The exit code says which it was.

See section 10.4 of the specification.
-/

namespace Adventure.Command

inductive Response where
  /-- The line itself is not understood, or asks about the program. -/
  | usage (e : UsageError)
  /-- The request cannot be carried out; the headline says what could not be done. -/
  | refused (headline : String)
  | broken (p : Panic)
  | printed (text : String)
  /-- The text is printed, then the report is saved. -/
  | saving (text path report : String)

def RunReport.respond (r : RunReport) : Option String → Response
  | none => .printed r.text
  | some path => .saving r.text path r.toJson.pretty

/-- Carries out a run; `listing` gives the files below a directory. -/
def RunRequest.respond (r : RunRequest) (listing : String → Option (List File)) : Response :=
  match execute r (listing r.resources) with
  | .error (.failure f) => .refused f.headline
  | .error (.panic p) => .broken p
  | .ok report => report.respond r.report

def respond (line : List String) (listing : String → Option (List File)) : Response :=
  match Arguments.read line with
  | .error e => .usage e
  | .ok a =>
    match a.job with
    | .error e => .refused e.message
    | .ok .listFunctions => .printed (Function.table.listing ++ "\n")
    | .ok (.run r) => r.respond listing

def savedLine (path : String) : String := "Saved run report to " ++ path ++ "\n"

def unsavedHeadline (path : String) : String := (Activity.writingReport path).message

def errorText (headline : String) : String := "Error: " ++ headline ++ "\n"

/-- The line on the error stream that says what could not be done. -/
def errorLine (headline : String) : String := Text.firstLine (errorText headline)

/-- The exit code for a command line that is not understood; asking about the program is no
mistake. -/
def UsageError.exitCode : UsageError → UInt32
  | .helpRequested => 0
  | .versionRequested => 0
  | _ => 2

def refusedCode : UInt32 := 1

def brokenCode : UInt32 := 101

end Adventure.Command
