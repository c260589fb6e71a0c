import ChatMemory.Conversation.Message
import ChatMemory.Settings
import ChatMemory.Text.Blank
import ChatMemory.Unicode.Lowercasing

/-!
Titles of conversations. A title is taken from the opening of the conversation: the first few words
of the first message that says something, written with capitals.
-/

namespace ChatMemory

open Unicode

namespace Title

def smallWords : List (List Char) :=
  ["a", "an", "and", "at", "but", "by", "for", "in", "nor", "of", "on", "or", "the", "to",
    "with"].map String.toList

def leadingMarks : List Char :=
  "#>*-\"'`_~".toList

/-- The pieces between single spaces; two spaces have an empty piece between them. -/
def splitAtSpaces : List Char → List (List Char)
  | [] => [[]]
  | character :: rest =>
    if character == ' ' then [] :: splitAtSpaces rest
    else
      match splitAtSpaces rest with
      | [] => [[character]]
      | piece :: pieces => (character :: piece) :: pieces

/-- One word of a title. A word with a capital inside stays as it is. -/
def capitalizeWord (isFirst : Bool) (word : List Char) : List Char :=
  if (word.drop 1).any isUppercase then word
  else if !isFirst && smallWords.contains (lowercase word) then lowercase word
  else capitalize word

/-- Writes a phrase with capitals. A phrase without any lower case is put into lower case first. -/
def capitalizePhrase (phrase : List Char) : List Char :=
  let phrase := if phrase.any isLowercase then phrase else lowercase phrase
  Text.joinWithSpaces <|
    (splitAtSpaces phrase).mapIdx fun index word => capitalizeWord (index == 0) word

/-- Adds words to a title while they fit into the limit. A first word that is too long is cut. -/
def addWords (limit : Nat) (title : List Char) : List (List Char) → List Char
  | [] => title
  | word :: rest =>
    let joined := if title.isEmpty then word else title ++ ' ' :: word
    if limit < joined.length then
      if title.isEmpty then word.take limit else title
    else addWords limit joined rest

def trimEnd (text : List Char) : List Char :=
  (text.reverse.dropWhile (!isAlphanumeric ·)).reverse

def sourceWords (settings : TitleSettings) (content : List Char) : List (List Char) :=
  let opening := content.dropWhile fun character =>
    leadingMarks.contains character || isBlank character
  ((blankFreePieces opening).filter (·.any isAlphanumeric)).take settings.maxWords

def ofContent (settings : TitleSettings) (content : String) : String :=
  let title := addWords settings.maxChars [] (sourceWords settings content.toList)
  String.ofList (capitalizePhrase (trimEnd title))

/-- The message that gives the title: the first substantial one of the user, or else of anyone but
the system. -/
def source? (messages : List Message) : Option Message :=
  (messages.find? fun message => message.role.isUser && message.hasSubstance).or
    (messages.find? fun message => !message.role.isSystem && message.hasSubstance)

def ofMessages (settings : TitleSettings) (messages : List Message) : String :=
  match source? messages with
  | none => settings.fallback
  | some message =>
    let title := ofContent settings message.content
    if title.isEmpty then settings.fallback else title

def ofPhrase (phrase : String) : String :=
  String.ofList (capitalizePhrase phrase.toList)

example : ofContent {} "## Setting up the API" = "Setting Up the API" := by decide

example : ofContent {} "> is my iPhone ok" = "Is My iPhone Ok" := by decide

end Title

end ChatMemory
