import ChatMemory.Relevance.Ranking
import ChatMemory.Text.Blank

/-!
Condensing a history to a budget.

Some messages stay in any case: the newest system message and the newest of the others. The rest are
candidates; the most relevant are admitted as long as the budget lasts. What stays keeps its order.
-/

namespace ChatMemory

structure Budget where
  maxMessages : Nat
  maxTokens : Option Nat := none
  deriving Repr, DecidableEq

def CondensingSettings.budget (settings : CondensingSettings) : Budget :=
  ⟨settings.maxMessages, settings.maxTokens⟩

def Budget.allowsTokens (budget : Budget) (tokens : Nat) : Bool :=
  match budget.maxTokens with
  | none => true
  | some limit => decide (tokens ≤ limit)

structure Condensed where
  messages : List Message
  countBefore : Nat
  /-- The part of the messages that is left, or one if there were none. -/
  ratio : Float32
  tokensBefore : Nat
  tokens : Nat
  /-- How many messages had to stay. -/
  mandatory : Nat

namespace Condensed

def count (condensed : Condensed) : Nat :=
  condensed.messages.length

def isShorter (condensed : Condensed) : Bool :=
  decide (condensed.count < condensed.countBefore)

def ofNothing : Condensed := ⟨[], 0, 1, 0, 0, 0⟩

end Condensed

namespace Condensing

/-- Which messages have to stay, for a history read from its end. `system` says that a system
message is still to be kept, `recent` how many others are. -/
def mandatoryFrom (system : Bool) (recent : Nat) : List Message → List Bool
  | [] => []
  | message :: older =>
    if message.role.isSystem then system :: mandatoryFrom false recent older
    else decide (0 < recent) :: mandatoryFrom system (recent - 1) older

structure Slot where
  message : Message
  position : Nat
  mandatory : Bool
  deriving Repr, DecidableEq

def Slot.tokens (slot : Slot) : Nat :=
  Text.tokenEstimate slot.message.content

def slots (settings : CondensingSettings) (messages : List Message) : List Slot :=
  let mandatory :=
    (mandatoryFrom settings.preserveSystem settings.recentMessages messages.reverse).reverse
  (messages.zip mandatory).zipIdx.map fun ((message, mandatory), position) =>
    ⟨message, position, mandatory⟩

def tokensOf (slots : List Slot) : Nat :=
  Text.tokenTotal (slots.map (·.message.content))

def takeLast {α : Type _} (count : Nat) (list : List α) : List α :=
  list.drop (list.length - count)

/-- The messages that may be admitted: the newest ones that do not have to stay. -/
def candidates (settings : CondensingSettings) (slots : List Slot) : List Slot :=
  takeLast settings.maxCandidates (slots.filter (!·.mandatory))

/-- What the candidates are compared with: the query, or the newest message of the user if the
query is missing or blank. -/
def probeText (messages : List Message) (query : Option String) : String :=
  let query := Unicode.trim (query.getD "")
  if query.isEmpty then ((messages.reverse.find? (·.role.isUser)).map (·.content)).getD ""
  else query

/-- The candidates with their scores. Without anything to compare them with, the newest score
highest. -/
def scores (scoring : ScoringSettings) (probe : Probe) (slots candidates : List Slot) :
    List Scored :=
  if probe.isEmpty then
    candidates.map fun slot => ⟨slot.position, scoring.recency slot.position slots.length⟩
  else
    let documents := candidates.map fun slot => Analysis.ofText slot.message.content
    let others := (slots.filter (·.mandatory)).map fun slot => Analysis.ofText slot.message.content
    let corpus := Frequencies.ofDocuments (documents ++ others)
    (candidates.zip documents).map fun (slot, document) =>
      ⟨slot.position, scoring.relevance probe document slot.position slots.length corpus⟩

def rankedCandidates (scoring : ScoringSettings) (probe : Probe) (slots candidates : List Slot) :
    List Slot :=
  (sortByScore (scores scoring probe slots candidates)).filterMap fun scored =>
    candidates.find? (·.position == scored.position)

/-- The candidates that are admitted: each that fits, until the messages are used up, and with them
the tokens that are kept in the end. `count` and `tokens` are what is kept so far. -/
def admission (budget : Budget) (count tokens : Nat) : List Slot → List Slot × Nat
  | [] => ([], tokens)
  | slot :: rest =>
    if budget.maxMessages ≤ count then ([], tokens)
    else if budget.allowsTokens (tokens + slot.tokens) then
      let (later, total) := admission budget (count + 1) (tokens + slot.tokens) rest
      (slot :: later, total)
    else admission budget count tokens rest

def selection (settings : CondensingSettings) (scoring : ScoringSettings) (messages : List Message)
    (query : Option String) (budget : Budget) : List Slot × Nat :=
  let slots := slots settings messages
  let mandatory := slots.filter (·.mandatory)
  let probe := Probe.ofText (probeText messages query)
  let ranked := rankedCandidates scoring probe slots (candidates settings slots)
  let (chosen, tokens) := admission budget mandatory.length (tokensOf mandatory) ranked
  (slots.filter fun slot => slot.mandatory || chosen.any (·.position == slot.position), tokens)

end Condensing

open Condensing in
def condense (settings : CondensingSettings) (scoring : ScoringSettings) (messages : List Message)
    (query : Option String) (budget : Budget) : Condensed :=
  if messages.isEmpty then .ofNothing
  else
    let (kept, tokens) := selection settings scoring messages query budget
    { messages := kept.map (·.message)
      countBefore := messages.length
      ratio := Text.ratio kept.length messages.length
      tokensBefore := Text.tokenTotal (messages.map (·.content))
      tokens
      mandatory := ((slots settings messages).filter (·.mandatory)).length }

end ChatMemory
