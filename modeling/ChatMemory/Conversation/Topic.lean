import ChatMemory.Conversation.Message
import ChatMemory.Settings
import ChatMemory.Text.Term
import ChatMemory.Unicode.LetterCase

/-!
Topics of conversations. Phrases after a cue such as `what` or `about` name a topic; a message
without cues gives its significant words. Topics that more messages raise come first, then those
raised most recently.
-/

namespace ChatMemory

namespace Topic

def questionCues : List String :=
  ["how", "hows", "what", "whats", "when", "where", "wheres", "which", "who", "whos", "why"]

def subjectCues : List String :=
  ["about", "concerning", "discussing", "regarding"]

def isCue (word : String) : Bool :=
  questionCues.contains word || subjectCues.contains word

def isSignificant (settings : TopicSettings) (word : String) : Bool :=
  decide (settings.minWordChars ≤ word.length) && !Text.isStopWord word && !isCue word &&
    !word.toList.all Char.isDigit

def phraseAfterCue (settings : TopicSettings) (rest : List String) : List String :=
  ((rest.takeWhile (!isCue ·)).take settings.maxWords).filter (isSignificant settings)

def cuedPhrases (settings : TopicSettings) : List String → List (List String)
  | [] => []
  | word :: rest =>
    if isCue word && !(phraseAfterCue settings rest).isEmpty then
      phraseAfterCue settings rest :: cuedPhrases settings rest
    else cuedPhrases settings rest

def phrasesOf (settings : TopicSettings) (message : Message) : List String :=
  let words := Text.words message.content
  let cued := cuedPhrases settings words
  if cued.isEmpty then (words.filter (isSignificant settings)).eraseDups
  else (cued.map (" ".intercalate ·)).eraseDups

/-- Counts a phrase once more. New phrases go to the end. -/
def tally (counts : List (String × Nat)) (phrase : String) : List (String × Nat) :=
  match counts with
  | [] => [(phrase, 1)]
  | (known, count) :: rest =>
    if known = phrase then (known, count + 1) :: rest else (known, count) :: tally rest phrase

def sources (settings : TopicSettings) (messages : List Message) : List Message :=
  (messages.reverse.filter fun message =>
    !message.role.isSystem && message.hasSubstance).take settings.recentMessages

/-- Each phrase with the number of messages that raise it, in the order in which the phrases are met
from the newest message backwards. -/
def counts (settings : TopicSettings) (messages : List Message) : List (String × Nat) :=
  ((sources settings messages).flatMap (phrasesOf settings)).foldl tally []

def display (phrase : String) : String :=
  String.ofList (Unicode.capitalize phrase.toList)

def ofMessages (settings : TopicSettings) (messages : List Message) : List String :=
  let ranked := (counts settings messages).mergeSort fun first second =>
    decide (second.2 ≤ first.2)
  (ranked.take settings.maxTopics).map fun (phrase, _) => display phrase

end Topic

end ChatMemory
