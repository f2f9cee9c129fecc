import CharacterLedger.Log

/-!
# Intents

An intent is what a player wants: to roll for an action, to resist by an attribute, to roll plain
dice, to adjust a rating, to see a character. Its parts are values as they came, of any types; what
is executed may also be no intent at all.

An intent is carried out as a command, which is logged with its fields under a trace number of its
own, or directly, without any of this. A command whose fields cannot be written goes no further than
that.
-/

namespace CharacterLedger.Ledger

/-- What is executed though it is no intent. -/
inductive Stranger where
  | value (v : Value)
  /-- The class of the intents to see a character, instead of one of them. -/
  | intentClass
  /-- A request of another kind, with a channel. -/
  | request (channel : Value)

/-- What a player wants. -/
inductive Intent where
  | roll (channel user name bonus : Value)
  | resist (channel user name : Value)
  | dice (dice : Value)
  | adjust (channel user name delta : Value)
  | view (channel user : Value)
  | unsupported (s : Stranger)

/-- The name of the type of what is no intent. -/
def Stranger.typeName : Stranger → String
  | value v => v.kind.name
  | intentClass => "type"
  | request _ => "DeleteIntent"

/-- The fields that an intent is logged with. -/
def Intent.fields : Intent → Fields
  | roll channel user name bonus =>
    [("intent", .text "RollIntent"), ("channel_id", channel), ("user_id", user),
      ("attribute_name", name), ("bonus_dice", bonus)]
  | resist channel user name =>
    [("intent", .text "ResistanceIntent"), ("channel_id", channel), ("user_id", user),
      ("attribute", name)]
  | dice n => [("intent", .text "DiceIntent"), ("dice", n)]
  | adjust channel user name delta =>
    [("intent", .text "AdjustIntent"), ("channel_id", channel), ("user_id", user),
      ("attribute_name", name), ("delta", delta)]
  | view channel user =>
    [("intent", .text "ShowIntent"), ("channel_id", channel), ("user_id", user)]
  | unsupported (.request channel) =>
    [("intent", .text "DeleteIntent"), ("channel_id", channel)]
  | unsupported s => [("intent", .text s.typeName)]

/-- The manner in which an intent is carried out. -/
inductive Order where
  | command (i : Intent)
  | method (i : Intent)

namespace Order

/-- The intent that is carried out. -/
def intent : Order → Intent
  | command i | method i => i

/-- The context of a command, if it can be written. -/
def context? : Order → Option String
  | command i => Log.context? i.fields
  | method _ => none

/-- Whether nothing has to be written, or it can be. -/
def isWritable : Order → Bool
  | command i => (Log.context? i.fields).isSome
  | method _ => true

end Order

end CharacterLedger.Ledger
