/-!
# Where events come from

Every event is told by one area of the program. An area is named by a path, so
that areas that belong together have names that begin alike. Some events also
arise in the course of an *activity*, which has a name and says what it is
about.
-/

namespace Breadboard

/-- **Level** of an event, the most severe one first. -/
inductive Level where
  | error
  | warn
  | info
  | debug
  | trace
  deriving DecidableEq, Repr, Inhabited

namespace Level

/-- How little a level matters: zero for errors. -/
def rank : Level → Nat
  | error => 0
  | warn => 1
  | info => 2
  | debug => 3
  | trace => 4

/-- The name of a level. -/
def name : Level → String
  | error => "ERROR"
  | warn => "WARN"
  | info => "INFO"
  | debug => "DEBUG"
  | trace => "TRACE"

end Level

/-- **Activity** in whose course events arise. -/
structure Activity where
  /-- Its name. -/
  name : String
  /-- The level from which on activities of this kind are followed. -/
  level : Level
  /-- What it is about. -/
  fields : List (String × String)
  deriving DecidableEq

/-- **Origin** of an event. -/
structure Origin where
  /-- The path of the area. -/
  area : String
  /-- The activity, if there is one. -/
  activity : Option Activity
  deriving DecidableEq

namespace Origin

/-- The console. -/
def console : Origin := ⟨"core_lib::driver", none⟩

/-- What answers to the keys of the console. -/
def keys : Origin := ⟨"core_lib::driver::input", none⟩

/-- The memory. -/
def memory : Origin := ⟨"core_lib::memory", none⟩

/-- The opcode table. -/
def table : Origin := ⟨"core_lib::microcode::table", none⟩

/-- The link to the board. -/
def link : Origin := ⟨"core_lib::serial", none⟩

/-- The command line. -/
def commandLine : Origin := ⟨"cli", none⟩

end Origin

end Breadboard
