import HeaderRules.Log
import HeaderRules.Profile.Document
import HeaderRules.Url.Pattern
import HeaderRules.Yaml.Document
/-!
# Loading profiles

The profile document is read again when its file has changed, but looked at only once in a while. A
document that cannot be used leaves the last good profiles in force, and is reported once.
-/

namespace HeaderRules

/-- Why the system does not do something with a path, such as 13, "Permission denied". -/
structure SystemError where
  number : Nat
  text : String
deriving Repr

def SystemError.message (e : SystemError) (path : String) : String :=
  "[Errno " ++ toString e.number ++ "] " ++ e.text ++ ": " ++ Text.quoted path

/-- What stands at the path of the profile document: nothing, something that the system says nothing
of, something that it does not open (a folder, or a file that may not be read), or a file with some
bytes. Times of change are in seconds, as the system tells them. -/
inductive FileState
  | missing
  | unreachable (error : SystemError)
  | unopenable (changed : Number.Binary64) (error : SystemError)
  | file (changed : Number.Binary64) (bytes : List UInt8)
deriving Repr

/-- A loader of profiles: the path of the document, the seconds between two looks at it, the
profiles in force, the time of change of the file last read, and the time of the last look. -/
structure Loader where
  path : String
  interval : Number.Binary64
  profiles : ProfileSet
  loadedChange : Option Number.Binary64
  lastLook : Option Number.Binary64
deriving Repr

/-- Why loading breaks off with neither old nor new profiles reported. -/
inductive LoadFault
  | text (fault : Yaml.Fault)
  | document (fault : DocumentFault)
deriving Repr

def LoadFault.message : LoadFault → String
  | text fault => fault.message
  | document fault => fault.message

structure Loaded where
  loader : Loader
  outcome : Except LoadFault Bool
  log : List Log.Entry

inductive Reading
  | profiles (set : ProfileSet)
  | rejected (reason : String)
  | broken (fault : LoadFault)

def Reading.ofBytes (bytes : List UInt8) : Reading :=
  match Yaml.read bytes with
  | .error .malformed => .rejected (Yaml.Fault.message .malformed)
  | .error fault => .broken (.text fault)
  | .ok value =>
    match ProfileSet.ofValue value with
    | .ok set => .profiles set
    | .error .numberTooLong => .broken (.document .numberTooLong)
    | .error fault => .rejected fault.message

namespace Loader

def start (path : String) (interval : Number.Binary64) : Loader :=
  ⟨path, interval, .empty, none, none⟩

def startNote (l : Loader) : Log.Entry := Log.info ("ProfileLoader initialized. File: " ++ l.path)

def active (l : Loader) : Option Profile := l.profiles.active

def isEarly (l : Loader) (now : Number.Binary64) : Bool :=
  l.lastLook.any fun last => (now.sub last).less l.interval

def failureNote (l : Loader) (reason : String) : Log.Entry :=
  Log.warning ("Failed to load profiles from " ++ l.path ++ ": " ++ reason)

/-- What is reported of matchers with regular expressions, which rules do not understand. -/
def filterNotes (set : ProfileSet) : List Log.Entry :=
  set.profiles.flatMap fun p =>
    (p.matchers.filter fun m => Url.formatOf m.filter.toList == .regex).map fun m =>
      Log.warning ("Profile '" ++ p.label ++ "' matcher " ++ m.id.shown ++
        ": regex filters are installed verbatim and are not understood by the rule engine (" ++
        m.filter ++ ")")

def successNote (set : ProfileSet) : Log.Entry :=
  Log.info ("Loaded " ++ toString set.profiles.length ++ " profile(s), active: " ++
    (set.active.map Profile.label).getD "none")

/-- Keeps the profiles in force, and notes the time of change of the file that was no use. -/
def reject (l : Loader) (changed : Option Number.Binary64) (reason : String) : Loaded :=
  ⟨{ l with loadedChange := changed.or l.loadedChange }, .ok false, [l.failureNote reason]⟩

def accept (l : Loader) (changed : Number.Binary64) (set : ProfileSet) : Loaded :=
  ⟨{ l with profiles := set, loadedChange := some changed }, .ok true,
    filterNotes set ++ [successNote set]⟩

/-- What follows from a document that is not there: no profiles, unless it was never there and
nobody insists. -/
def forget (l : Loader) (force : Bool) : Loaded :=
  if l.loadedChange.isNone && !force then ⟨l, .ok false, []⟩
  else
    ⟨{ l with profiles := .empty, loadedChange := none },
      .ok (!l.profiles.profiles.isEmpty || force), []⟩

def readFile (l : Loader) (changed : Number.Binary64) (bytes : List UInt8) : Loaded :=
  match Reading.ofBytes bytes with
  | .profiles set => l.accept changed set
  | .rejected reason => l.reject (some changed) reason
  | .broken fault => ⟨l, .error fault, []⟩

def isKnown (l : Loader) (force : Bool) (changed : Number.Binary64) : Bool :=
  !force && l.loadedChange.any changed.same

def look (l : Loader) (force : Bool) : FileState → Loaded
  | .missing => l.forget force
  | .unreachable error => l.reject none (error.message l.path)
  | .unopenable changed error =>
    if l.isKnown force changed then ⟨l, .ok false, []⟩
    else l.reject (some changed) (error.message l.path)
  | .file changed bytes =>
    if l.isKnown force changed then ⟨l, .ok false, []⟩ else l.readFile changed bytes

/-- Looks at the document unless it is too early, and tells whether the profiles changed. A forced
look is never too early and takes every file for new. -/
def load (l : Loader) (now : Number.Binary64) (file : FileState) (force : Bool) : Loaded :=
  if !force && l.isEarly now then ⟨l, .ok false, []⟩
  else { l with lastLook := some now }.look force file

end Loader

end HeaderRules
