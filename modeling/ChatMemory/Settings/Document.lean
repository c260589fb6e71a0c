import ChatMemory.Format.Structured
import ChatMemory.Settings

/-!
Settings as structured data. Whatever is missing has its default, and what is unknown is passed
over.
-/

namespace ChatMemory

open Structured

variable {δ : Type} [Structured δ]

def CondensingSettings.read? (value : δ) : Option CondensingSettings :=
  let default : CondensingSettings := {}
  match fields? ["max_messages", "max_tokens", "recent_messages", "preserve_system",
      "max_candidates"] value with
  | some [maxMessages, maxTokens, recentMessages, preserveSystem, maxCandidates] => do
    some
      { maxMessages := ← field? count? default.maxMessages maxMessages
        maxTokens := ← field? (optional? count?) default.maxTokens maxTokens
        recentMessages := ← field? count? default.recentMessages recentMessages
        preserveSystem := ← field? bool? default.preserveSystem preserveSystem
        maxCandidates := ← field? count? default.maxCandidates maxCandidates }
  | _ => none

def ScoringSettings.read? (value : δ) : Option ScoringSettings :=
  let default : ScoringSettings := {}
  match fields? ["lexical_weight", "recency_weight", "recency_half_life", "trigram_threshold"]
      value with
  | some [lexicalWeight, recencyWeight, recencyHalfLife, trigramThreshold] => do
    some
      { lexicalWeight := ← field? single? default.lexicalWeight lexicalWeight
        recencyWeight := ← field? single? default.recencyWeight recencyWeight
        recencyHalfLife := ← field? single? default.recencyHalfLife recencyHalfLife
        trigramThreshold := ← field? single? default.trigramThreshold trigramThreshold }
  | _ => none

def SearchSettings.read? (value : δ) : Option SearchSettings :=
  let default : SearchSettings := {}
  match fields? ["cross_session", "semantic", "keyword_fallback_threshold", "semantic_threshold",
      "max_scan_messages"] value with
  | some [crossSession, semantic, keywordsFirstFrom, semanticThreshold, maxScanMessages] => do
    some
      { crossSession := ← field? bool? default.crossSession crossSession
        semantic := ← field? bool? default.semantic semantic
        keywordsFirstFrom := ← field? count? default.keywordsFirstFrom keywordsFirstFrom
        semanticThreshold := ← field? single? default.semanticThreshold semanticThreshold
        maxScanMessages := ← field? count? default.maxScanMessages maxScanMessages }
  | _ => none

def TitleSettings.read? (value : δ) : Option TitleSettings :=
  let default : TitleSettings := {}
  match fields? ["max_words", "max_chars", "fallback"] value with
  | some [maxWords, maxChars, fallback] => do
    some
      { maxWords := ← field? count? default.maxWords maxWords
        maxChars := ← field? count? default.maxChars maxChars
        fallback := ← field? text? default.fallback fallback }
  | _ => none

def TopicSettings.read? (value : δ) : Option TopicSettings :=
  let default : TopicSettings := {}
  match fields? ["max_topics", "min_word_chars", "max_words", "recent_messages"] value with
  | some [maxTopics, minWordChars, maxWords, recentMessages] => do
    some
      { maxTopics := ← field? count? default.maxTopics maxTopics
        minWordChars := ← field? count? default.minWordChars minWordChars
        maxWords := ← field? count? default.maxWords maxWords
        recentMessages := ← field? count? default.recentMessages recentMessages }
  | _ => none

def StorageSettings.read? (value : δ) : Option StorageSettings :=
  match fields? ["data_dir"] value with
  | some [dataDirectory] => do
    some { dataDirectory := ← field? (optional? text?) none dataDirectory }
  | _ => none

namespace Settings

def read? (value : δ) : Option Settings :=
  match fields? ["optimizer", "scoring", "search", "title", "topics", "storage"] value with
  | some [condensing, scoring, search, title, topics, storage] => do
    some
      { condensing := ← field? CondensingSettings.read? {} condensing
        scoring := ← field? ScoringSettings.read? {} scoring
        search := ← field? SearchSettings.read? {} search
        title := ← field? TitleSettings.read? {} title
        topics := ← field? TopicSettings.read? {} topics
        storage := ← field? StorageSettings.read? {} storage }
  | _ => none

def ofJson (value : Json) : Except Failure Settings :=
  match (read? value : Option Settings) with
  | none => .error .malformed
  | some settings => settings.validate.map fun _ => settings

end Settings

end ChatMemory
