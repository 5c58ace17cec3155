import StepSequencer.Calendar.Pattern
import StepSequencer.Command.Invocation
import StepSequencer.Command.Outcome
import StepSequencer.Source
import StepSequencer.Template.Folder

/-!
# Running commands

Each command is a function from the files to an outcome. `new` and `delete` change the library,
`compile` writes its output file, and no other command changes a file. A library that cannot be
read is never written. `runCommand` is what a command does, and `run` what the program does with its
arguments: code 0 means success, 1 failure, and 2 that the arguments were refused.
-/

set_option autoImplicit false
set_option relaxedAutoImplicit false

namespace StepSequencer

open Json (decimal)

/-- What a run finds around it: variables, the instant, a number for a fresh identifier, and
whether its output and its messages go to a terminal. -/
structure Host where
  lookup : String → Option String
  now : Int64
  suffix : Nat
  terminal : Bool := false
  errorTerminal : Bool := false

/-! ### Log records -/

/-- The record of a library that is not there yet. -/
def missingLibraryRecord (path : String) : LogRecord :=
  ⟨.debug, "slocum_cli::library", "library file missing, starting empty", [("path", path)], []⟩

/-- The record of a song that was saved. -/
def savedRecord (id : String) : LogRecord :=
  ⟨.info, "slocum_cli::library", "saved song", [("id", id)], []⟩

/-- The record of a song that was deleted. -/
def deletedRecord (id : String) : LogRecord :=
  ⟨.info, "slocum_cli::library", "deleted song", [("id", id)], []⟩

/-- The record of the library in use. -/
def libraryRecord (path : String) : LogRecord :=
  ⟨.debug, "slocum", "using song library", [("library", path)], []⟩

/-- The record of a note table. -/
def notesRecord (notes : NoteTable) : LogRecord :=
  ⟨.debug, "slocum_cli::input", "loaded note table",
    [("percussion", decimal notes.percussion.entries.length),
      ("tunings", decimal notes.tunings.length)], []⟩

/-- The record of a template in a file. -/
def templateRecord (name path : String) : LogRecord :=
  ⟨.debug, "slocum_cli::render", "registered template",
    [("name", Text.quoted name), ("path", path)], []⟩

/-- The record of a warning about a song. -/
def warningRecord (warning : SongWarning) : LogRecord :=
  ⟨.debug, "slocum_backend_asm::assemble", warning.message,
    [("code", Text.quoted warning.code.text)], []⟩

/-- The record of a song that was compiled. -/
def compiledRecord (patterns : List Pattern) (compilation : Compilation) : LogRecord :=
  ⟨.debug, "slocum_backend_asm::table", "compiled pattern tables",
    [("patterns", decimal patterns.length), ("blocks", decimal compilation.store.size),
      ("high_entries", decimal compilation.arrangement.high.entries.length),
      ("low_entries", decimal compilation.arrangement.low.entries.length)], []⟩

/-- The record of a song that was not compiled. -/
def failedRecord (error : AssemblyError) : LogRecord :=
  ⟨.warn, "slocum_cli::commands::compile", "compilation failed",
    [("code", Text.quoted error.code), ("category", Text.quoted error.category)], []⟩

/-- The names of the values that records of rendering hide. -/
def hiddenNames : List String :=
  ["log.target", "log.module_path", "log.file", "log.line"]

/-- The names of a path, quoted, each in a word of its own. -/
def quotedNames (path : String) : String :=
  ", ".intercalate ((Template.pathNames path).map fun name ↦ "Named(" ++ Text.quoted name ++ ")")

/-- The record of a reference that is rendered. -/
def referenceRecord (path : String) : LogRecord :=
  ⟨.debug, "handlebars::render", "Rendering value: Path(Relative(([" ++ quotedNames path ++
    "], " ++ Text.quoted path ++ ")))", [], hiddenNames⟩

/-- The record of a word that is rendered. -/
def wordRecord (word : String) : LogRecord :=
  ⟨.debug, "handlebars::render", "Rendering helper: " ++ Text.quoted word ++
    ", params: [], hash: \x7b\x7d", [], hiddenNames⟩

/-- The record that a template asks for, which has no words. -/
def noteRecord : LogRecord :=
  ⟨.info, "handlebars::helpers::helper_log", "", [], hiddenNames⟩

/-- What is logged when a reference, or a word in its place, is rendered. -/
def referenceEvents (path : String) : List Event :=
  match Template.word? path with
  | none => [.log (referenceRecord path)]
  | some .noted => [.log (wordRecord path), .log noteRecord]
  | some _ => [.log (wordRecord path)]

/-- What is logged when a library is opened. -/
def openEvents (files : FileTree) (path : String) : List Event :=
  if files.has path then [] else [.log (missingLibraryRecord path)]

/-- What is logged when a song is loaded. -/
def SongSource.events (files : FileTree) : SongSource → List Event
  | .stored path _ => openEvents files path
  | .file _ => []

/-- What is logged when a song is compiled. -/
def compileEvents (encoder : Encoder) (song : Song) : List Event :=
  match song.validate.toResult with
  | .error _ => []
  | .ok warnings =>
    warnings.map (fun warning ↦ .log (warningRecord warning)) ++
      match compile encoder song.info.tuning song.patterns with
      | .error _ => []
      | .ok compilation => [.log (compiledRecord song.patterns compilation)]

/-- What is logged when a document is rendered with the template of a name. -/
def renderEvents (registry : Registry Template) (name : String) (document : Document) :
    List Event :=
  match registry.find? name with
  | none => []
  | some template =>
    (Template.lookedUp document.encode.canonical template.parts).flatMap referenceEvents

/-- What is logged when a song is assembled. -/
def assemblyEvents (encoder : Encoder) (registry : Registry Template) (name : String)
    (song : Song) : List Event :=
  compileEvents encoder song ++
    match buildDocument encoder Calendar.TimePattern.header.format song with
    | .error _ => []
    | .ok document => renderEvents registry name document

/-! ### Texts -/

/-- The line of a song in a list. -/
def songLine (ink : Ink) (song : Song) : String :=
  ink.paint .cyan (song.id.getD "-") ++ "  " ++ ink.paint .bold song.displayTitle ++ "  " ++
    ink.paint .dim "modified" ++ " " ++ Calendar.TimePattern.header.format song.info.modified ++
    "\n"

/-- The list of the songs in a library. -/
def libraryListing (ink : Ink) (library : Library) : String :=
  if library.songs.isEmpty then ink.paint .dim "No songs in" ++ " " ++ library.path ++ "\n"
  else
    String.join (library.songs.map (songLine ink)) ++ "\n" ++ decimal library.songs.length ++
      " song(s) in " ++ library.path ++ "\n"

/-- The line of a finding, with a mark and the text of its code. -/
def findingLine {κ : Type} (ink : Ink) (look : Look) (mark code : String) (finding : Finding κ) :
    String :=
  let place := match finding.path with
    | some path => " at " ++ path
    | none => ""
  "  " ++ ink.paint look mark ++ " [" ++ ink.paint look code ++ "]" ++ ink.paint .dim place ++
    ": " ++ finding.message ++ "\n"

/-- The errors and warnings of a report. -/
def reportText (ink : Ink) (report : Report) : String :=
  (if report.errors.isEmpty then ""
    else "\n" ++ ink.paint .boldRed "Errors:" ++ "\n" ++
      String.join (report.errors.map fun (fault : SongFault) ↦
        findingLine ink .red "x" fault.code.text fault)) ++
    (if report.warnings.isEmpty then ""
      else "\n" ++ ink.paint .boldYellow "Warnings:" ++ "\n" ++
        String.join (report.warnings.map fun (warning : SongWarning) ↦
          findingLine ink .yellow "!" warning.code.text warning))

/-- The verdict on a song. -/
def verdictText (ink : Ink) (song : Song) (report : Report) : String :=
  if report.passes then
    "\n" ++ ink.paint .boldGreen "SUCCESS" ++ " " ++ song.displayTitle ++ " is valid (" ++
      decimal song.patterns.length ++ " pattern(s))\n"
  else
    "\n" ++ ink.paint .boldRed "FAILED" ++ " Song has " ++ decimal report.errors.length ++
      " error(s)\n"

/-! ### Commands on the library -/

/-- A new song with what is known about it. -/
def freshSong (host : Host) (title author : Option String) (tempo : Option UInt8) : Song :=
  let song := Song.new (songId host.now host.suffix) host.now
  { song with
    info := { song.info with
      title := title.getD song.info.title
      author := author.getD song.info.author
      tempo := tempo.getD song.info.tempo } }

/-- Saves a new song. -/
def runNew (host : Host) (ink : Ink) (files : FileTree) (path : String)
    (title author : Option String) (tempo : Option UInt8) : Outcome :=
  let events := openEvents files path
  match Library.load files path with
  | .error e => .failure ink files events (InputError.library e).chain
  | .ok library =>
    let change :=
      library.save files (freshSong host title author tempo) host.now host.suffix
    match change.result with
    | .error e => .failure ink change.files events (InputError.library e).chain
    | .ok id =>
      .success change.files (events ++ [.log (savedRecord id),
        .print (ink.paint .boldGreen "Created:" ++ " " ++ id ++ "\n" ++
          ink.paint .dim "Library:" ++ " " ++ path ++ "\n")])

/-- Lists the songs. -/
def runList (ink : Ink) (files : FileTree) (path : String) : Outcome :=
  let events := openEvents files path
  match Library.load files path with
  | .error e => .failure ink files events (InputError.library e).chain
  | .ok library => .success files (events ++ [.print (libraryListing ink library)])

/-- Prints a song. -/
def runDisplay (ink : Ink) (files : FileTree) (path id : String) : Outcome :=
  let source := SongSource.stored path id
  match source.load files with
  | .error e => .failure ink files (source.events files) e.chain
  | .ok song => .success files (source.events files ++ [.print (song.toJsonPretty ++ "\n")])

/-- Deletes a song. -/
def runDelete (ink : Ink) (files : FileTree) (path id : String) : Outcome :=
  let events := openEvents files path
  match Library.load files path with
  | .error e => .failure ink files events (InputError.library e).chain
  | .ok library =>
    let change := library.delete files id
    match change.result with
    | .error e => .failure ink change.files events (InputError.library e).chain
    | .ok true =>
      .success change.files (events ++ [.log (deletedRecord id),
        .print (ink.paint .boldGreen "Deleted:" ++ " " ++ id ++ "\n")])
    | .ok false =>
      ⟨1, events ++ [.print (ink.paint .boldRed "NOT FOUND" ++ " no song with id " ++ id ++
        "\n")], change.files⟩

/-! ### Commands on a song -/

/-- Validates a song. -/
def runValidate (ink : Ink) (files : FileTree) (source : SongSource) : Outcome :=
  let events := .print (ink.paint .boldCyan "Validating:" ++ " " ++ source.describe ++ "\n") ::
    source.events files
  match source.load files with
  | .error e => .failure ink files events (("Failed to load " ++ source.describe) :: e.chain)
  | .ok song =>
    let report := song.validate
    ⟨if report.passes then 0 else 1,
      events ++ [.print (reportText ink report ++ verdictText ink song report)], files⟩

/-- Writes the text of a compiled song to its file, or prints it. -/
def deliver (ink : Ink) (files : FileTree) (events : List Event) (song : Song) (text : String) :
    Option String → Outcome
  | none => .success files (events ++ [.print text])
  | some path =>
    match files.writeText path text with
    | .error e =>
      .failure ink files events ["Failed to write output: " ++ path, e.message]
    | .ok files =>
      .success files (events ++ [.complain (ink.paint .boldGreen "Compiled:" ++ " " ++
        song.displayTitle ++ " -> " ++ path ++ "\n")])

/-- Compiles a song with a note table and templates. -/
def compileWith (ink : Ink) (files : FileTree) (events : List Event) (source : SongSource)
    (options : CompileOptions) (song : Song) (notes : NoteTable) (registry : Registry Template) :
    Outcome :=
  let events := events ++ assemblyEvents notes.encode registry options.template song
  match assemble notes.encode Calendar.TimePattern.header.format registry.renderer
      options.template song with
  | .error (.invalidSong _) =>
    ⟨1, events ++ [.complain (ink.paint .boldRed "Invalid song:" ++ " " ++ source.describe ++
      "\n"), .print (reportText ink song.validate)], files⟩
  | .error e =>
    .failure ink files (events ++ [.log (failedRecord e)])
      (("Failed to compile " ++ source.describe) :: e.message :: e.reason?.toList)
  | .ok text => deliver ink files events song text options.output

/-- The templates for a compilation. -/
def loadTemplates (files : FileTree) : Option String → Loading Template
  | none => ⟨[], (Registry.new Template.parse).mapError .builtIn⟩
  | some folder => Registry.ofFolder Template.parse files folder

/-- Compiles a song. -/
def runCompile (ink : Ink) (files : FileTree) (source : SongSource) (options : CompileOptions) :
    Outcome :=
  let events := source.events files
  match source.load files with
  | .error e => .failure ink files events (("Failed to load " ++ source.describe) :: e.chain)
  | .ok song =>
    match NoteTable.load files options.notes with
    | .error e => .failure ink files events e.chain
    | .ok notes =>
      let loading := loadTemplates files options.folder
      let events := events ++ .log (notesRecord notes) ::
        loading.registered.map fun (name, path) ↦ .log (templateRecord name path)
      match loading.outcome with
      | .error e => .failure ink files events e.chain
      | .ok registry => compileWith ink files events source options song notes registry

/-- Runs a command on the song that its arguments name. -/
def withSource (ink : Ink) (files : FileTree) (library : String) (id file : Option String)
    (command : SongSource → Outcome) : Outcome :=
  match SongSource.ofArguments library id file with
  | .error e => .failure ink files [] [e.message]
  | .ok source => command source

/-- Runs a command with a library. -/
def runCommand (host : Host) (ink : Ink) (files : FileTree) (library : String) :
    Command → Outcome
  | .new title author tempo => runNew host ink files library title author tempo
  | .list => runList ink files library
  | .display id => runDisplay ink files library id
  | .delete id => runDelete ink files library id
  | .validate id file => withSource ink files library id file (runValidate ink files)
  | .compile id file options =>
    withSource ink files library id file fun source ↦ runCompile ink files source options

/-! ### Running the program -/

/-- The folder for data, if there is one. -/
def dataFolder? (lookup : String → Option String) : Option String :=
  match lookup "XDG_DATA_HOME" with
  | some folder =>
    if Path.isAbsolute folder then some folder else home?
  | none => home?
where
  /-- The folder for data in the home folder. -/
  home? : Option String :=
    (lookup "HOME").bind fun home ↦
      if home.isEmpty then none else some (Path.join home ".local/share")

/-- The library in use if none is named. -/
def defaultLibrary (lookup : String → Option String) : String :=
  match dataFolder? lookup with
  | some folder => Path.join (Path.join folder "slocum") "songs.json"
  | none => "songs.json"

/-- The version of the program. -/
def programVersion : String := "0.1.0"

/-- The answer to the question for the version, of the program or of a command. -/
def versionText (command : Option String) : String :=
  let name := match command with
    | some command => "slocum-" ++ command
    | none => "slocum"
  name ++ " " ++ programVersion ++ "\n"

/-- The answer to the question for help. -/
def helpText : String :=
  description ++ "\n\nUsage: slocum [OPTIONS] <COMMAND>\n\nCommands:\n" ++
    String.join (commandTables.map fun entry ↦ "  " ++ entry.1 ++ "\n")

/-- Runs the program. -/
def run (host : Host) (files : FileTree) (arguments : List String) : Outcome :=
  let ink := Ink.ofVariables host.lookup host.terminal
  match Invocation.parse host.lookup arguments with
  | .error e =>
    let ink := Ink.ofArgumentVariables host.lookup host.errorTerminal
    ⟨2, [.complain (e.message ink ++ "\n")], files⟩
  | .ok (.version command) => .success files [.print (versionText command)]
  | .ok .help => .success files [.print helpText]
  | .ok (.run invocation) =>
    let library := invocation.library.getD (defaultLibrary host.lookup)
    let outcome := runCommand host ink files library invocation.command
    { outcome with events := .log (libraryRecord library) :: outcome.events }

end StepSequencer
