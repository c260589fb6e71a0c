import ChatMemory.Foreign
import Mathlib.Data.List.Forall2
import Mathlib.Data.List.TakeWhile

/-!
Requests from programs in C. Main statement: a request is refused just if its arguments are
malformed, which changes nothing, and is otherwise answered as the memory answers it on what the
arguments stand for. The answer is compared with that of the memory field by field and text by text.
-/

namespace ChatMemory.Foreign

/-! ## What arguments stand for -/

def Spells (bytes : List UInt8) (string : String) : Prop :=
  string.toUTF8.toList = bytes.takeWhile (· != 0)

inductive Text.Reads : Text → Option String → Prop
  | null : Reads none none
  | spelled {bytes : List UInt8} {string : String} (spells : Spells bytes string) :
      Reads (some bytes) (some string)

def Text.Garbled (text : Text) : Prop :=
  ∀ read, ¬text.Reads read

def Text.Unusable (text : Text) : Prop :=
  text = .null ∨ text.Garbled

def ReadsMessage (pair : Text × Text) (message : Message) : Prop :=
  ∃ role content, pair.1.Reads (some role) ∧ pair.2.Reads (some content) ∧
    message = .ofTag role content

inductive History.Reads : History → List Message → Prop
  | none : Reads (.null 0) []
  | listed {pairs : List (Text × Text)} {messages : List Message}
      (each : List.Forall₂ ReadsMessage pairs messages) : Reads (.messages pairs) messages

inductive History.Faulty : History → Prop
  | missing {count : Nat} (promised : 0 < count) : Faulty (.null count)
  | listed {pairs : List (Text × Text)} {pair : Text × Text} (member : pair ∈ pairs)
      (unusable : pair.1.Unusable ∨ pair.2.Unusable) : Faulty (.messages pairs)

/-! ## What answers hold -/

/-- The text goes out without its zero characters, and whoever reads the bytes gets all of it. -/
structure Carries (out text : String) : Prop where
  characters : out.toList = text.toList.filter (· != '\x00')
  whole : (Text.ofString out).Reads (some out)

structure CarriesMessage (out : String × String) (message : Message) : Prop where
  role : Carries out.1 message.role.tag
  content : Carries out.2 message.content

structure CarriesHit (out : HitAnswer) (hit : Hit) : Prop where
  session : Carries out.session hit.session
  position : out.position = hit.position
  message : CarriesMessage out.message hit.message
  score : out.score = hit.score

structure CondensedAnswer.Carries (answer : CondensedAnswer) (condensed : Condensed) : Prop where
  messages : List.Forall₂ CarriesMessage answer.messages condensed.messages
  countBefore : answer.countBefore = condensed.countBefore
  count : answer.count = condensed.messages.length
  ratio : answer.ratio = condensed.ratio

structure CondensedAnswer.IsVacant (answer : CondensedAnswer) : Prop where
  messages : answer.messages = []
  countBefore : answer.countBefore = 0
  count : answer.count = 0
  ratio : answer.ratio = 1

structure SearchAnswer.Carries (answer : SearchAnswer) (findings : Findings) : Prop where
  total : answer.total = findings.total
  type : answer.type = some findings.type.name
  hits : List.Forall₂ CarriesHit answer.hits findings.hits

structure SearchAnswer.IsVacant (answer : SearchAnswer) : Prop where
  total : answer.total = 0
  type : answer.type = none
  hits : answer.hits = []

/-! ## Reading arguments -/

private theorem toList_loop_eq (bytes : ByteArray) (index : Nat) (before : List UInt8) :
    ByteArray.toList.loop bytes index before =
      before.reverse ++ bytes.data.toList.drop index := by
  fun_induction ByteArray.toList.loop bytes index before with
  | case1 index before within induction =>
      have inside : index < bytes.data.toList.length := within
      rw [induction, List.drop_eq_getElem_cons inside]
      simp [ByteArray.get!, within]
  | case2 index before outside =>
      have past : bytes.data.toList.length ≤ index := Nat.le_of_not_lt outside
      rw [List.drop_eq_nil_of_le past, List.append_nil]

private theorem toList_eq_data_toList (bytes : ByteArray) : bytes.toList = bytes.data.toList :=
  toList_loop_eq bytes 0 []

variable {text : Text} {history : History}

private theorem decode?_eq_some_iff {bytes : List UInt8} {string : String} :
    decode? bytes = some string ↔ Spells bytes string := by
  rw [decode?, Spells, String.fromUTF8?, toList_eq_data_toList]
  constructor
  · intro decoded
    split at decoded
    · cases decoded
      rfl
    · cases decoded
  · intro spells
    have encoded : (⟨(bytes.takeWhile (· != 0)).toArray⟩ : ByteArray) = string.toUTF8 := by
      rw [← spells]
    rw [encoded]
    exact dif_pos string.isValidUTF8

private theorem optional?_eq_some_iff {read : Option String} :
    optional? text = some read ↔ text.Reads read := by
  cases text with
  | none =>
      constructor
      · intro decoded
        cases decoded
        exact .null
      · intro reads
        cases reads
        rfl
  | some bytes =>
      rw [optional?, Option.map_eq_some_iff]
      constructor
      · rintro ⟨string, decoded, rfl⟩
        exact .spelled (decode?_eq_some_iff.mp decoded)
      · intro reads
        cases reads with
        | spelled spells => exact ⟨_, decode?_eq_some_iff.mpr spells, rfl⟩

private theorem required?_eq_some_iff {string : String} :
    required? text = some string ↔ text.Reads (some string) := by
  cases text with
  | none =>
      constructor
      · intro decoded
        cases decoded
      · intro reads
        cases reads
  | some bytes =>
      constructor
      · exact fun decoded => .spelled (decode?_eq_some_iff.mp decoded)
      · intro reads
        cases reads with
        | spelled spells => exact decode?_eq_some_iff.mpr spells

private theorem optional?_eq_none_iff : optional? text = none ↔ text.Garbled := by
  rw [Option.eq_none_iff_forall_ne_some]
  exact forall_congr' fun read => not_congr optional?_eq_some_iff

private theorem required?_eq_none_iff : required? text = none ↔ text.Unusable := by
  cases text with
  | none => exact iff_of_true rfl (.inl rfl)
  | some bytes =>
      have decoded : required? (some bytes) = none ↔ optional? (some bytes) = none :=
        Option.map_eq_none_iff.symm
      rw [decoded, optional?_eq_none_iff, Text.Unusable, Text.null]
      simp

def readMessage? (pair : Text × Text) : Option Message := do
  some (.ofTag (← required? pair.1) (← required? pair.2))

private theorem readMessage?_eq_some_iff {pair : Text × Text} {message : Message} :
    readMessage? pair = some message ↔ ReadsMessage pair message := by
  simp only [readMessage?, ReadsMessage, bind, Option.bind_eq_some_iff, required?_eq_some_iff,
    Option.some.injEq, eq_comm (a := message), exists_and_left]

private theorem readMessage?_eq_none_iff {pair : Text × Text} :
    readMessage? pair = none ↔ pair.1.Unusable ∨ pair.2.Unusable := by
  rw [← required?_eq_none_iff, ← required?_eq_none_iff, readMessage?]
  cases required? pair.1 <;> cases required? pair.2 <;> simp

private theorem mapM_readMessage?_eq_some_iff {pairs : List (Text × Text)} {messages : List Message}
    :
    pairs.mapM readMessage? = some messages ↔ List.Forall₂ ReadsMessage pairs messages := by
  induction pairs generalizing messages with
  | nil =>
      rw [List.mapM_nil, List.forall₂_nil_left_iff]
      exact Option.some_inj.trans eq_comm
  | cons pair rest induction =>
      simp only [List.mapM_cons, bind, pure, Option.bind_eq_some_iff, Option.some.injEq,
        readMessage?_eq_some_iff, induction, List.forall₂_cons_left_iff, eq_comm (b := messages)]
      exact ⟨fun ⟨first, reads, later, each, whole⟩ => ⟨first, later, reads, each, whole⟩,
        fun ⟨first, later, reads, each, whole⟩ => ⟨first, reads, later, each, whole⟩⟩

private theorem mapM_readMessage?_eq_none_iff {pairs : List (Text × Text)} :
    pairs.mapM readMessage? = none ↔
      ∃ pair ∈ pairs, pair.1.Unusable ∨ pair.2.Unusable := by
  induction pairs with
  | nil => simp
  | cons pair rest induction =>
      rw [List.exists_mem_cons_iff, ← induction, ← readMessage?_eq_none_iff, List.mapM_cons]
      cases readMessage? pair <;> cases rest.mapM readMessage? <;> simp

private theorem History.read?_eq_some_iff {messages : List Message} :
    history.read? = some messages ↔ history.Reads messages := by
  cases history with
  | null count =>
      rw [read?]
      constructor
      · intro read
        split at read
        · rename_i none
          cases read
          rw [none]
          exact .none
        · cases read
      · intro reads
        cases reads
        rfl
  | messages pairs =>
      refine mapM_readMessage?_eq_some_iff.trans ⟨.listed, ?_⟩
      intro reads
      cases reads with
      | listed each => exact each

private theorem History.read?_eq_none_iff : history.read? = none ↔ history.Faulty := by
  cases history with
  | null count =>
      rw [read?]
      constructor
      · intro read
        split at read
        · cases read
        · rename_i promised
          exact .missing (Nat.pos_of_ne_zero promised)
      · intro faulty
        cases faulty with
        | missing promised => exact if_neg (Nat.ne_of_gt promised)
  | messages pairs =>
      refine mapM_readMessage?_eq_none_iff.trans ⟨?_, ?_⟩
      · rintro ⟨pair, member, unusable⟩
        exact .listed member unusable
      · intro faulty
        cases faulty with
        | listed member unusable => exact ⟨_, member, unusable⟩

theorem Text.Reads.unique {first second : Option String} (reads : text.Reads first)
    (otherReads : text.Reads second) : first = second := by
  rw [← optional?_eq_some_iff] at reads otherReads
  exact Option.some.inj (reads.symm.trans otherReads)

private theorem Text.Reads.usable {string : String} (reads : text.Reads (some string)) :
    ¬text.Unusable := by
  rw [← required?_eq_none_iff, required?_eq_some_iff.mpr reads]
  exact Option.some_ne_none _

private theorem History.Reads.not_faulty {messages : List Message} (reads : history.Reads messages)
    :
    ¬history.Faulty := by
  rw [← History.read?_eq_none_iff, History.read?_eq_some_iff.mpr reads]
  exact Option.some_ne_none _

/-! ## Handing out answers -/

private theorem ofNat_ne_zero {value : Nat} (positive : 0 < value) (small : value < 256) :
    UInt8.ofNat value ≠ 0 := by
  intro zero
  have number := congrArg UInt8.toNat zero
  rw [UInt8.toNat_ofNat_of_lt' small] at number
  exact Nat.ne_of_gt positive number

private theorem ne_zero_of_mem_utf8EncodeChar {character : Char} (different : character ≠ '\x00') :
    ∀ byte ∈ String.utf8EncodeChar character, byte ≠ 0 := by
  have positive : 0 < character.val.toNat := by
    apply Nat.pos_of_ne_zero
    intro zero
    exact different (Char.ext (UInt32.toNat_inj.mp zero))
  -- The first byte of a longer encoding and the ones that follow it have their high bits set.
  rw [String.utf8EncodeChar]
  split
  · rw [List.forall_mem_singleton]
    exact ofNat_ne_zero positive (by omega)
  · split
    · rw [List.forall_mem_cons, List.forall_mem_singleton]
      constructor <;> apply ofNat_ne_zero <;> omega
    · split
      · rw [List.forall_mem_cons, List.forall_mem_cons, List.forall_mem_singleton]
        refine ⟨?_, ?_, ?_⟩ <;> apply ofNat_ne_zero <;> omega
      · rw [List.forall_mem_cons, List.forall_mem_cons, List.forall_mem_cons,
          List.forall_mem_singleton]
        refine ⟨?_, ?_, ?_, ?_⟩ <;> apply ofNat_ne_zero <;> omega

private theorem carries_handOut (text : String) : Carries (handOut text) text where
  characters := String.toList_ofList
  whole := by
    have bytes : (handOut text).toUTF8.toList =
        (text.toList.filter (· != '\x00')).flatMap String.utf8EncodeChar := by
      rw [toList_eq_data_toList, handOut, String.toUTF8_eq_toByteArray, String.toByteArray_ofList,
        List.utf8Encode, List.toList_data_toByteArray]
    apply Text.Reads.spelled
    rw [Spells, eq_comm, List.takeWhile_eq_self_iff, bytes]
    intro byte member
    rcases List.mem_flatMap.mp member with ⟨character, kept, encoded⟩
    have different : character ≠ '\x00' := by simpa using List.of_mem_filter kept
    simpa using ne_zero_of_mem_utf8EncodeChar different byte encoded

private theorem carriesMessage_handOutMessage (message : Message) :
    CarriesMessage (handOutMessage message) message :=
  ⟨carries_handOut _, carries_handOut _⟩

private theorem carriesHit_of (hit : Hit) : CarriesHit (.of hit) hit :=
  ⟨carries_handOut _, rfl, carriesMessage_handOutMessage _, rfl⟩

private theorem CondensedAnswer.carries_of (condensed : Condensed) :
    (CondensedAnswer.of condensed).Carries condensed where
  messages := List.forall₂_map_left_iff.mpr
    (List.forall₂_same.mpr fun message _ => carriesMessage_handOutMessage message)
  countBefore := rfl
  count := rfl
  ratio := rfl

private theorem CondensedAnswer.isVacant_empty : CondensedAnswer.empty.IsVacant :=
  ⟨rfl, rfl, rfl, rfl⟩

private theorem SearchAnswer.carries_of (findings : Findings) :
    (SearchAnswer.of findings).Carries findings where
  total := rfl
  type := rfl
  hits := List.forall₂_map_left_iff.mpr (List.forall₂_same.mpr fun hit _ => carriesHit_of hit)

private theorem SearchAnswer.isVacant_empty : SearchAnswer.empty.IsVacant :=
  ⟨rfl, rfl, rfl⟩

/-! ## Requests -/

variable {β : Type _}

inductive CondenseMalformed (handle : Handle β) (session query : Text) (history : History)
    (hasPlace : Bool) : Prop
  | noPlace (absent : hasPlace = false)
  | noMemory (null : handle = none)
  | session (unusable : session.Unusable)
  | blankSession {id : String} (reads : session.Reads (some id))
      (blank : Unicode.isAllBlank id = true)
  | query (garbled : query.Garbled)
  | history (faulty : history.Faulty)

/-- How a request to condense may go: it is refused and leaves nothing in the place for the answer,
or is answered as the memory answers it. -/
inductive CondenseOutcome [Backend β] (handle : Handle β) (session query : Text)
    (history : History) (hasPlace : Bool) (now : Instant) :
    Reply CondensedAnswer × Handle β → Prop
  | refused {left : Option CondensedAnswer}
      (malformed : CondenseMalformed handle session query history hasPlace)
      (placed : left.isSome = hasPlace) (vacant : ∀ answer ∈ left, answer.IsVacant) :
      CondenseOutcome handle session query history hasPlace now
        (⟨.invalidArgument, left⟩, handle)
  | answered {engine after : Engine β} {id : String} {asked : Option String}
      {messages : List Message} {condensed : Condensed} {answer : CondensedAnswer}
      (wellFormed : ¬CondenseMalformed handle session query history hasPlace)
      (given : handle = some engine) (readsId : session.Reads (some id))
      (readsQuery : query.Reads asked) (readsHistory : history.Reads messages)
      (condenses : engine.condense id messages asked now = (.ok condensed, after))
      (carries : answer.Carries condensed) :
      CondenseOutcome handle session query history hasPlace now (⟨.ok, some answer⟩, some after)

inductive SearchMalformed (handle : Handle β) (query session : Text) (hasPlace : Bool) : Prop
  | noPlace (absent : hasPlace = false)
  | noMemory (null : handle = none)
  | query (unusable : query.Unusable)
  | session (garbled : session.Garbled)

inductive SearchOutcome (handle : Handle β) (query session : Text) (limit : Int)
    (hasPlace : Bool) : Reply SearchAnswer × Handle β → Prop
  | refused {left : Option SearchAnswer}
      (malformed : SearchMalformed handle query session hasPlace)
      (placed : left.isSome = hasPlace) (vacant : ∀ answer ∈ left, answer.IsVacant) :
      SearchOutcome handle query session limit hasPlace (⟨.invalidArgument, left⟩, handle)
  | answered {engine : Engine β} {asked : String} {scope : Option String} {answer : SearchAnswer}
      (wellFormed : ¬SearchMalformed handle query session hasPlace)
      (given : handle = some engine) (readsQuery : query.Reads (some asked))
      (readsSession : session.Reads scope)
      (carries : answer.Carries (engine.search asked scope limit.toNat).1) :
      SearchOutcome handle query session limit hasPlace
        (⟨.ok, some answer⟩, some (engine.search asked scope limit.toNat).2)

inductive TitleMalformed (handle : Handle β) (history : History) : Prop
  | noMemory (null : handle = none)
  | history (faulty : history.Faulty)

inductive TitleOutcome (handle : Handle β) (history : History) :
    Option String × Handle β → Prop
  | refused (malformed : TitleMalformed handle history) :
      TitleOutcome handle history (none, handle)
  | answered {engine : Engine β} {messages : List Message} {answer : String}
      (wellFormed : ¬TitleMalformed handle history) (given : handle = some engine)
      (readsHistory : history.Reads messages)
      (carries : Carries answer (engine.title messages).1) :
      TitleOutcome handle history (some answer, some (engine.title messages).2)

private theorem not_condenseMalformed {engine : Engine β} {session query : Text} {id : String}
    {asked : Option String} {messages : List Message} (readsId : session.Reads (some id))
    (nonblank : Unicode.isAllBlank id = false) (readsQuery : query.Reads asked)
    (readsHistory : history.Reads messages) :
    ¬CondenseMalformed (some engine) session query history true := by
  intro malformed
  cases malformed with
  | noPlace absent => cases absent
  | noMemory null => cases null
  | session unusable => exact readsId.usable unusable
  | blankSession reads blank =>
      cases readsId.unique reads
      rw [nonblank] at blank
      cases blank
  | query garbled => exact garbled _ readsQuery
  | history faulty => exact readsHistory.not_faulty faulty

private theorem condense_of_blank [Backend β] {engine : Engine β} {id : String}
    (blank : Unicode.isAllBlank id = true) (messages : List Message) (query : Option String)
    (now : Instant) :
    engine.condense id messages query now = (.error .blankSessionId, engine) := by
  have refused : SessionId.ofText id = .error .blankSessionId := if_pos blank
  rw [Engine.condense, Engine.condenseTo, refused]

private theorem exists_condensed [Backend β] (engine : Engine β) {id : String}
    (nonblank : Unicode.isAllBlank id = false) (messages : List Message) (query : Option String)
    (now : Instant) :
    ∃ condensed after, engine.condense id messages query now = (.ok condensed, after) := by
  rw [Engine.condense, Engine.condenseTo, SessionId.ofText_of_nonblank nonblank]
  exact ⟨_, _, rfl⟩

private theorem condense_outcome [Backend β] (handle : Handle β) (session query : Text)
    (history : History) (hasPlace : Bool) (now : Instant) :
    CondenseOutcome handle session query history hasPlace now
      (condense handle session query history hasPlace now) := by
  unfold condense
  cases hasPlace with
  | false => exact .refused (.noPlace rfl) rfl nofun
  | true =>
  have vacant : ∀ answer ∈ some CondensedAnswer.empty, answer.IsVacant := by
    simpa using CondensedAnswer.isVacant_empty
  cases handle with
  | none => exact .refused (.noMemory rfl) rfl vacant
  | some engine =>
  cases readId : required? session with
  | none => exact .refused (.session (required?_eq_none_iff.mp readId)) rfl vacant
  | some id =>
  cases readQuery : optional? query with
  | none => exact .refused (.query (optional?_eq_none_iff.mp readQuery)) rfl vacant
  | some asked =>
  cases readHistory : history.read? with
  | none => exact .refused (.history (History.read?_eq_none_iff.mp readHistory)) rfl vacant
  | some messages =>
  have readsId := required?_eq_some_iff.mp readId
  have readsQuery := optional?_eq_some_iff.mp readQuery
  have readsHistory := History.read?_eq_some_iff.mp readHistory
  dsimp only
  cases blank : Unicode.isAllBlank id with
  | true =>
      rw [condense_of_blank blank]
      exact .refused (.blankSession readsId blank) rfl vacant
  | false =>
      rcases exists_condensed engine blank messages asked now with ⟨condensed, after, condenses⟩
      rw [condenses]
      exact .answered (not_condenseMalformed readsId blank readsQuery readsHistory) rfl readsId
        readsQuery readsHistory condenses (CondensedAnswer.carries_of condensed)

private theorem search_outcome (handle : Handle β) (query session : Text) (limit : Int)
    (hasPlace : Bool) :
    SearchOutcome handle query session limit hasPlace
      (search handle query session limit hasPlace) := by
  unfold search
  cases hasPlace with
  | false => exact .refused (.noPlace rfl) rfl nofun
  | true =>
  have vacant : ∀ answer ∈ some SearchAnswer.empty, answer.IsVacant := by
    simpa using SearchAnswer.isVacant_empty
  cases handle with
  | none => exact .refused (.noMemory rfl) rfl vacant
  | some engine =>
  cases readQuery : required? query with
  | none => exact .refused (.query (required?_eq_none_iff.mp readQuery)) rfl vacant
  | some asked =>
  cases readSession : optional? session with
  | none => exact .refused (.session (optional?_eq_none_iff.mp readSession)) rfl vacant
  | some scope =>
  have readsQuery := required?_eq_some_iff.mp readQuery
  have readsSession := optional?_eq_some_iff.mp readSession
  refine .answered ?_ rfl readsQuery readsSession (SearchAnswer.carries_of _)
  intro malformed
  cases malformed with
  | noPlace absent => cases absent
  | noMemory null => cases null
  | query unusable => exact readsQuery.usable unusable
  | session garbled => exact garbled _ readsSession

private theorem title_outcome (handle : Handle β) (history : History) :
    TitleOutcome handle history (title handle history) := by
  unfold title
  cases handle with
  | none => exact .refused (.noMemory rfl)
  | some engine =>
  cases readHistory : history.read? with
  | none => exact .refused (.history (History.read?_eq_none_iff.mp readHistory))
  | some messages =>
  have readsHistory := History.read?_eq_some_iff.mp readHistory
  refine .answered ?_ rfl readsHistory (carries_handOut _)
  intro malformed
  cases malformed with
  | noMemory null => cases null
  | history faulty => exact readsHistory.not_faulty faulty

/-- Requests to condense, searches and requests for titles are refused just if they are malformed,
and then change nothing. Otherwise the answer is that of the memory on what the arguments stand
for, without zero characters. -/
theorem requests_agree_with_memory [Backend β] (handle : Handle β) (session query : Text)
    (history : History) (limit : Int) (hasPlace : Bool) (now : Instant) :
    let condensed := condense handle session query history hasPlace now
    let found := search handle query session limit hasPlace
    let named := title handle history
    (CondenseOutcome handle session query history hasPlace now condensed ∧
      (condensed.1.status = .invalidArgument ↔
        CondenseMalformed handle session query history hasPlace)) ∧
    (SearchOutcome handle query session limit hasPlace found ∧
      (found.1.status = .invalidArgument ↔ SearchMalformed handle query session hasPlace)) ∧
    TitleOutcome handle history named ∧ (named.1 = none ↔ TitleMalformed handle history) := by
  intro condensed found named
  have condenseOutcome : CondenseOutcome handle session query history hasPlace now condensed :=
    condense_outcome handle session query history hasPlace now
  have searchOutcome : SearchOutcome handle query session limit hasPlace found :=
    search_outcome handle query session limit hasPlace
  have titleOutcome : TitleOutcome handle history named := title_outcome handle history
  refine ⟨⟨condenseOutcome, ?_⟩, ⟨searchOutcome, ?_⟩, titleOutcome, ?_⟩
  · generalize condensed = result at condenseOutcome
    cases condenseOutcome with
    | refused malformed => exact iff_of_true rfl malformed
    | answered wellFormed => exact iff_of_false Status.noConfusion wellFormed
  · generalize found = result at searchOutcome
    cases searchOutcome with
    | refused malformed => exact iff_of_true rfl malformed
    | answered wellFormed => exact iff_of_false Status.noConfusion wellFormed
  · generalize named = result at titleOutcome
    cases titleOutcome with
    | refused malformed => exact iff_of_true rfl malformed
    | answered wellFormed => exact iff_of_false (Option.some_ne_none _) wellFormed

end ChatMemory.Foreign
