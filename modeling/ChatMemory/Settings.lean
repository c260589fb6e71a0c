import ChatMemory.Failure
import ChatMemory.Unicode.Blank

/-!
The settings of a memory, and the check that they can be worked with.
-/

namespace ChatMemory

structure CondensingSettings where
  /-- How many messages may be left. -/
  maxMessages : Nat := 20
  /-- How many tokens may be left, if that is limited. -/
  maxTokens : Option Nat := none
  /-- How many of the newest messages stay in any case; system messages do not count. -/
  recentMessages : Nat := 2
  /-- Whether the newest system message stays in any case. -/
  preserveSystem : Bool := true
  /-- How many of the other messages are considered. -/
  maxCandidates : Nat := 2000
  deriving Repr, DecidableEq

structure ScoringSettings where
  lexicalWeight : Float32 := 0.7
  recencyWeight : Float32 := 0.3
  /-- The age, in messages, at which recency is down to one half. -/
  recencyHalfLife : Float32 := 8
  /-- From this similarity on two terms count as related. -/
  trigramThreshold : Float32 := 0.55

structure SearchSettings where
  /-- Whether a search may go over all sessions. -/
  crossSession : Bool := true
  /-- Whether messages are also found by related terms. -/
  semantic : Bool := true
  /-- From this many keyword hits on, they all come before the other hits. -/
  keywordsFirstFrom : Nat := 3
  /-- The share of query terms that a message has to be related to. -/
  semanticThreshold : Float32 := 0.5
  /-- How many of a session's newest messages are searched. -/
  maxScanMessages : Nat := 10000

structure TitleSettings where
  maxWords : Nat := 6
  maxChars : Nat := 60
  /-- The title of a conversation that gives no other. -/
  fallback : String := "New Conversation"
  deriving Repr, DecidableEq

structure TopicSettings where
  maxTopics : Nat := 3
  /-- The length from which on words can be part of a topic. -/
  minWordChars : Nat := 3
  maxWords : Nat := 4
  /-- How many of the newest messages are looked at. -/
  recentMessages : Nat := 20
  deriving Repr, DecidableEq

structure StorageSettings where
  /-- The directory of the session files. Without one nothing outlives the program. -/
  dataDirectory : Option String := none
  deriving Repr, DecidableEq

structure Settings where
  condensing : CondensingSettings := {}
  scoring : ScoringSettings := {}
  search : SearchSettings := {}
  title : TitleSettings := {}
  topics : TopicSettings := {}
  storage : StorageSettings := {}

inductive SettingsFault
  | unreadable
  | negativeWeight (name : String)
  | noWeight
  | emptyHalfLife
  | outsideUnit (name : String)
  | emptyTitle
  | blankFallback
  | emptyTopics
  | unreadableVariable (name quoted : String)
  deriving Repr, DecidableEq

def SettingsFault.describe : SettingsFault → String
  | .unreadable => "TOML parse error"
  | .negativeWeight name => name ++ " must be >= 0"
  | .noWeight => "scoring weights must not both be zero"
  | .emptyHalfLife => "scoring.recency_half_life must be > 0"
  | .outsideUnit name => name ++ " must be within [0, 1]"
  | .emptyTitle => "title.max_words and title.max_chars must be > 0"
  | .blankFallback => "title.fallback must not be empty"
  | .emptyTopics => "topics.max_words must be > 0"
  | .unreadableVariable name quoted => name ++ " has an invalid value: " ++ quoted

def SettingsFault.failure (fault : SettingsFault) : Failure :=
  ⟨.settings, fault.describe⟩

def isWeight (value : Float32) : Bool :=
  value.isFinite && !decide (value < 0)

def isInUnit (value : Float32) : Bool :=
  decide (0 ≤ value) && decide (value ≤ 1)

namespace Settings

def fault? (settings : Settings) : Option SettingsFault :=
  let scoring := settings.scoring
  if !isWeight scoring.lexicalWeight then some (.negativeWeight "scoring.lexical_weight")
  else if !isWeight scoring.recencyWeight then some (.negativeWeight "scoring.recency_weight")
  else if scoring.lexicalWeight + scoring.recencyWeight ≤ 0 then some .noWeight
  else if !scoring.recencyHalfLife.isFinite || decide (scoring.recencyHalfLife ≤ 0) then
    some .emptyHalfLife
  else if !isInUnit scoring.trigramThreshold then some (.outsideUnit "scoring.trigram_threshold")
  else if !isInUnit settings.search.semanticThreshold then
    some (.outsideUnit "search.semantic_threshold")
  else if settings.title.maxWords == 0 || settings.title.maxChars == 0 then some .emptyTitle
  else if Unicode.isAllBlank settings.title.fallback then some .blankFallback
  else if settings.topics.maxWords == 0 then some .emptyTopics
  else none

def validate (settings : Settings) : Except Failure Unit :=
  match settings.fault? with
  | some fault => .error fault.failure
  | none => .ok ()

example : ({} : Settings).fault? = none := by decide

end Settings

end ChatMemory
