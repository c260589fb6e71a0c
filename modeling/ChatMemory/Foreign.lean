import ChatMemory.Engine.Launch
import ChatMemory.Logging.Settings

/-!
A memory as programs in C use it. They pass texts and lists by address: an address can be null, a
text ends at its first zero byte, and its bytes need not be UTF-8. Every request has a status, and
its answer goes to a place that the caller provides.
-/

namespace ChatMemory.Foreign

inductive Status
  | ok
  | invalidArgument
  | allocationFailure
  | internal
  deriving Repr, DecidableEq

def Status.code : Status → Nat
  | .ok => 0
  | .invalidArgument => 1
  | .allocationFailure => 2
  | .internal => 3

def Status.ofFailure (failure : Failure) : Status :=
  if failure.isCallersFault then .invalidArgument
  else if failure.kind = .allocation then .allocationFailure
  else .internal

/-- A text passed by address: the bytes that stand there, or nothing for a null address. -/
abbrev Text := Option (List UInt8)

namespace Text

def null : Text := none

def ofString (text : String) : Text :=
  some text.toUTF8.toList

end Text

def decode? (bytes : List UInt8) : Option String :=
  String.fromUTF8? ⟨(bytes.takeWhile (· != 0)).toArray⟩

def required? (text : Text) : Option String :=
  text.bind decode?

def optional? : Text → Option (Option String)
  | none => some none
  | some bytes => (decode? bytes).map some

/-- Messages passed by address, as pairs of a role and a content. A null address comes with the
number of messages that are said to stand there. -/
inductive History
  | null (count : Nat)
  | messages (pairs : List (Text × Text))

/-- The messages of a history. A null address will do if there are none. -/
def History.read? : History → Option (List Message)
  | .null count => if count = 0 then some [] else none
  | .messages pairs =>
    pairs.mapM fun (role, content) => do some (.ofTag (← required? role) (← required? content))

/-- A text to hand out. Zero bytes would end it early and are left out. -/
def handOut (text : String) : String :=
  String.ofList (text.toList.filter (· != '\x00'))

def handOutMessage (message : Message) : String × String :=
  (handOut message.role.tag, handOut message.content)

structure CondensedAnswer where
  messages : List (String × String)
  countBefore : Nat
  count : Nat
  ratio : Float32

def CondensedAnswer.empty : CondensedAnswer := ⟨[], 0, 0, 1⟩

def CondensedAnswer.of (condensed : Condensed) : CondensedAnswer where
  messages := condensed.messages.map handOutMessage
  countBefore := condensed.countBefore
  count := condensed.count
  ratio := condensed.ratio

structure HitAnswer where
  session : String
  position : Nat
  message : String × String
  score : Score

def HitAnswer.of (hit : Hit) : HitAnswer where
  session := handOut hit.session
  position := hit.position
  message := handOutMessage hit.message
  score := hit.score

/-- The answer to a search. The type is null in an empty one. -/
structure SearchAnswer where
  total : Nat
  type : Option String
  hits : List HitAnswer

def SearchAnswer.empty : SearchAnswer := ⟨0, none, []⟩

def SearchAnswer.of (findings : Findings) : SearchAnswer where
  total := findings.total
  type := some findings.type.name
  hits := findings.hits.map HitAnswer.of

structure Reply (α : Type _) where
  status : Status
  answer : Option α

abbrev Handle (β : Type _) := Option (Engine β)

variable {β : Type _} [Backend β]

/-- Condenses a history to the budget of the settings. `hasPlace` says whether the caller gave a
place for the answer. -/
def condense (handle : Handle β) (session query : Text) (history : History) (hasPlace : Bool)
    (now : Instant) : Reply CondensedAnswer × Handle β :=
  if !hasPlace then (⟨.invalidArgument, none⟩, handle)
  else
    match handle, required? session, optional? query, history.read? with
    | some engine, some id, some query, some messages =>
      match engine.condense id messages query now with
      | (.ok condensed, engine) => (⟨.ok, some (.of condensed)⟩, some engine)
      | (.error failure, engine) => (⟨.ofFailure failure, some .empty⟩, some engine)
    | _, _, _, _ => (⟨.invalidArgument, some .empty⟩, handle)

/-- Searches one session or all of them. A limit below zero counts as zero. -/
def search (handle : Handle β) (query session : Text) (limit : Int) (hasPlace : Bool) :
    Reply SearchAnswer × Handle β :=
  if !hasPlace then (⟨.invalidArgument, none⟩, handle)
  else
    match handle, required? query, optional? session with
    | some engine, some query, some session =>
      let (findings, engine) := engine.search query session limit.toNat
      (⟨.ok, some (.of findings)⟩, some engine)
    | _, _, _ => (⟨.invalidArgument, some .empty⟩, handle)

/-- A title for a history. It is null if an argument is not as it should be. -/
def title (handle : Handle β) (history : History) : Option String × Handle β :=
  match handle, history.read? with
  | some engine, some messages =>
    let (title, engine) := engine.title messages
    (some (handOut title), some engine)
  | _, _ => (none, handle)

/-- A memory with the given settings, or a null address if it cannot be started. A log filter that
is malformed only leaves it without a log, but one that splits a character keeps it from
starting. -/
def create (settings : Except Failure Settings) (environment : Environment) (files : FileSystem) :
    Handle Storage :=
  match settings, (LoggingSettings.ofEnvironment environment).checkFilter environment with
  | .error _, _ => none
  | _, .error .splitCharacter => none
  | .ok settings, _ => (Engine.launch settings files).toOption

end ChatMemory.Foreign
