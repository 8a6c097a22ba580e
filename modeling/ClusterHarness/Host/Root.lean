import ClusterHarness.Host.Basic

/-!
# The repository's root

Commands work on the repository around the working directory: the closest directory upwards that
has the harness in it.
-/

namespace ClusterHarness

/-- The directories of a path from its last segment up; the segments come last first. -/
def ancestorsOf (absolute : Bool) : List String → List String
  | [] => if absolute then ["/"] else []
  | segment :: before =>
    ((if absolute then "/" else "") ++ String.intercalate "/" (segment :: before).reverse)
      :: ancestorsOf absolute before

/-- A directory and those around it, the closest first. -/
def ancestors (path : String) : List String :=
  let segments := ((Text.split '/' path.toList).filter (¬·.isEmpty)).map String.ofList
  ancestorsOf (path.startsWith "/") segments.reverse

def isHarnessRoot (isFile isDirectory : String → Bool) (directory : String) : Bool :=
  isFile (joinPath directory "Cargo.toml") && isDirectory (joinPath directory "lib/wait-until")

/-- The repository's root around a directory. -/
def findRoot (isFile isDirectory : String → Bool) (directory : String) : Except Failure String :=
  match (ancestors directory).find? (isHarnessRoot isFile isDirectory) with
  | some root => .ok root
  | none =>
    .error (Failure.ofText "Could not find the repository root, run from inside the repository")

end ClusterHarness
