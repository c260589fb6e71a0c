import ChatMemory.Relevance.Score
import ChatMemory.Conversation.Message

/-!
Order by score. Scores are compared by a key that puts all single precision numbers into one line,
so that sorting never depends on the order it starts from except among equal keys.
-/

namespace ChatMemory

/-- A single precision number with all its bits. What is no number has a sign and a payload here,
which a `Float32` does not keep. -/
structure Score where
  bits : UInt32
  deriving Repr, DecidableEq

namespace Score

/-- What arithmetic gives. Where that is no number, the sign is set. -/
def ofFloat (value : Float32) : Score :=
  ⟨if value.isNaN then 0xFFC00000 else value.toBits⟩

def toFloat (score : Score) : Float32 :=
  .ofBits score.bits

instance : Coe Float32 Score := ⟨ofFloat⟩

instance : Coe Score Float32 := ⟨toFloat⟩

end Score

/-- The place of a score in the order of all scores. -0 comes before 0. What is no number comes
before all others if its sign is set, and after them if it is not. -/
def scoreKey (score : Score) : Int :=
  let bits := score.bits.toNat
  if bits < 0x80000000 then bits else 0x7FFFFFFF - bits

example :
    scoreKey (.ofFloat 0.5) < scoreKey (.ofFloat 1) ∧
      scoreKey (.ofFloat (-0.0)) < scoreKey (.ofFloat 0) ∧
      scoreKey (.ofFloat (-1)) < scoreKey (.ofFloat (-0.5)) ∧
      scoreKey ⟨0xFFC00000⟩ < scoreKey (.ofFloat (-1)) ∧
      scoreKey (.ofFloat 1) < scoreKey ⟨0x7FC00000⟩ := by
  decide

structure Scored where
  position : Nat
  score : Score

def sortByScore (scored : List Scored) : List Scored :=
  scored.mergeSort fun first second => decide (scoreKey second.score ≤ scoreKey first.score)

def ScoringSettings.rank (scoring : ScoringSettings) (text : String) (messages : List Message) :
    List Scored :=
  let probe := Probe.ofText text
  let documents := messages.map fun message => Analysis.ofText message.content
  let corpus := Frequencies.ofDocuments documents
  sortByScore <| documents.zipIdx.map fun (document, position) =>
    ⟨position, scoring.relevance probe document position documents.length corpus⟩

end ChatMemory
