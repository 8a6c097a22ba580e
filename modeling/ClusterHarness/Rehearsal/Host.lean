import ClusterHarness.Fixture.Basic
import ClusterHarness.Host.Root
import ClusterHarness.Rehearsal.Cluster
import ClusterHarness.Rehearsal.Writer

/-!
# Rehearsed hosts

A host whose child commands, servers and files are scripted.  One server answers in the clear and
stands for the cluster as well; some others answer together, or cannot be reached.
-/

namespace ClusterHarness

namespace Rehearsal

/-- How a child command is played; a clone comes with the installer's script unless it is bare. -/
structure Play where
  ending : Ending
  stdout : List UInt8
  stderr : List UInt8
  bare : Bool

def Play.quiet : Play := ⟨.exited 0, [], [], false⟩

structure Scene where
  server : String
  script : List Reply
  secureServers : List String
  secureScript : Option (List Reply)
  /-- Programs that can be started. -/
  programs : List String
  plays : List (String × List Play)
  /-- Programs that are not found by looking for them. -/
  absent : List String
  environment : Environment
  verbosity : Level
  coloured : Bool
  workingDirectory : String
  home : String
  repository : String
  kubeconfig : Option String
  executable : String
  today : Timestamp

inductive Asked where
  | web (request : Http.Request)
  | api (request : ApiRequest)

/-- A child command that was run: its program, and the content of the files it was given. -/
structure Run where
  program : String
  command : Command
  files : List (List UInt8)

/-- What happened so far, latest first, and the files that there are. -/
structure HostState where
  now : Nat
  asked : List Asked
  askedSecurely : List Http.Request
  runs : List Run
  out : String
  err : String
  files : List (String × List UInt8)
  directories : List String
  scripts : List String
  /-- How many files of their own were made. -/
  filesMade : Nat

def HostState.start (directories : List String) : HostState :=
  ⟨0, [], [], [], "", "", [], directories, [], 0⟩

def fetch (scene : Scene) (request : Http.Request) (s : HostState) : Http.Reply × HostState :=
  let server := String.ofList request.url.host
  let answer (reply : Option Reply) : Http.Reply :=
    let reply := reply.getD (Reply.missing [])
    if reply.closed then .closed else .answer reply.status (reply.answerTo request.body)
  if server = scene.server then
    (answer (turn? scene.script s.asked.length), { s with asked := .web request :: s.asked })
  else if scene.secureServers.contains server then
    match scene.secureScript with
    | none => (.closed, s)
    | some script =>
      (answer (turn? script s.askedSecurely.length),
        { s with askedSecurely := request :: s.askedSecurely })
  else (.closed, s)

def send (scene : Scene) (request : ApiRequest) (s : HostState) : ApiReply × HostState :=
  let reply := (turn? scene.script s.asked.length).getD (Reply.missing [])
  let s := { s with asked := .api request :: s.asked }
  if reply.closed then (.broken "connection closed", s)
  else (.answer reply.status (reply.answerTo (bodyOf request)), s)

def baseName (path : String) : String :=
  String.ofList ((path.toList.reverse.takeWhile (· ≠ '/')).reverse)

def missingFile : String := "No such file or directory (os error 2)"

def nextPlay (scene : Scene) (s : HostState) (program : String) : Play :=
  let plays := ((scene.plays.find? (·.1 == program)).map (·.2)).getD []
  (plays[(s.runs.filter (·.program == program)).length]?).getD .quiet

def launch (scene : Scene) (command : Command) (s : HostState) :
    Except String Completion × HostState :=
  let program := baseName command.program
  if scene.programs.contains command.program || s.scripts.contains command.program then
    let play := nextPlay scene s program
    let ending :=
      if program = "which" ∧ play.ending.success ∧ command.arguments.any scene.absent.contains then
        .exited 1
      else play.ending
    let files := command.arguments.filterMap fun a => (s.files.find? (·.1 == a)).map (·.2)
    let cloned := match command.arguments with
      | "clone" :: rest => if program = "git" ∧ !play.bare then rest.getLast?.toList else []
      | _ => []
    let shown (bytes : List UInt8) : String :=
      if command.captured then "" else Utf8.decodeLossy bytes
    (.ok ⟨ending, play.stdout, play.stderr⟩, { s with
      runs := ⟨program, command, files⟩ :: s.runs
      scripts := cloned.map (joinPath · "hack/bootstrap-cluster.sh") ++ s.scripts
      out := s.out ++ shown play.stdout
      err := s.err ++ shown play.stderr })
  else (.error missingFile, s)

/-- Makes directories, outermost first. -/
def makeDirectories (s : HostState) : List String → Except String Unit × HostState
  | [] => (.ok (), s)
  | path :: rest =>
    if s.directories.contains path then makeDirectories s rest
    else if s.files.any (·.1 == path) then
      (.error (if rest.isEmpty then "File exists (os error 17)"
        else "Not a directory (os error 20)"), s)
    else makeDirectories { s with directories := path :: s.directories } rest

def writeFile (path : String) (bytes : List UInt8) (s : HostState) :
    Except String Unit × HostState :=
  let parent := ((ancestors path).drop 1).head?.getD ""
  if s.directories.contains path then (.error "Is a directory (os error 21)", s)
  else if s.directories.contains parent then
    (.ok (), { s with files := (path, bytes) :: s.files.filter (·.1 != path) })
  else (.error missingFile, s)

/-- The name under which each temporary directory goes, one at a time. -/
def temporaryName : String := "<dir>"

/-- Makes the temporary directory anew. -/
def renew (s : HostState) : HostState :=
  let stays (path : String) : Bool := !path.startsWith temporaryName
  { s with
    files := s.files.filter fun f => stays f.1
    scripts := s.scripts.filter stays
    directories := temporaryName :: s.directories.filter stays }

def host (scene : Scene) : Host HostState where
  toClocked := clocked (·.now) fun now s => { s with now }
  today _ := scene.today
  random s := (numbers (s.asked.length + s.now), s)
  send := send scene
  fetch := fetch scene
  pageLimit := patience
  launch := launch scene
  environment := scene.environment ++ [("HOME", scene.home)]
  verbosity := scene.verbosity
  say notice s :=
    let line := notice.line scene.coloured ++ "\n"
    if notice.toStandardOutput then { s with out := s.out ++ line }
    else { s with err := s.err ++ line }
  temporaryDirectory s := (.ok temporaryName, renew s)
  makeDirectories path s := makeDirectories s (ancestors path).reverse
  writeFile := writeFile
  kubeconfig _ := scene.kubeconfig
  executable := .ok scene.executable
  repository := scene.repository
  yamlText := yamlText

/-- The name under which the file of a number goes. -/
def fileName (n : Nat) : String := "<file:" ++ Nat.repr n ++ ">"

def filesLeft (s : HostState) : List String :=
  ((List.range s.filesMade).map fileName).filter fun name => s.files.any (·.1 == name)

def bench (scene : Scene) : Bench HostState where
  launch := launch scene
  makeFile bytes s :=
    let name := fileName s.filesMade
    (.ok name, { s with files := (name, bytes) :: s.files, filesMade := s.filesMade + 1 })
  removeFile path s := { s with files := s.files.filter (·.1 != path) }

end Rehearsal

end ClusterHarness
