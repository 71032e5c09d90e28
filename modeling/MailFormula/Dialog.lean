/-!
# Dialogs

Prompts that a formula shows to the user, and the answers it gets. The answers are given
beforehand, one list for each kind of prompt; a prompt takes the next one. A prompt whose answer is
missing, or for which the list is used up, counts as dismissed.
-/

namespace MailFormula

/-- A prompt as it was shown. -/
inductive Prompt where
  /-- Asks for a text. -/
  | input (message default : String) (multiline : Bool)
  /-- Shows a message; the kind chooses the buttons. -/
  | message (text : String) (kind : UInt32)
deriving DecidableEq, Repr

/-- The answers to come and the prompts shown so far. -/
structure Dialog where
  texts : List (Option String) := []
  buttons : List (Option UInt32) := []
  shown : List Prompt := []
deriving DecidableEq, Repr

namespace Dialog

/-- Asks for a text. -/
def ask (d : Dialog) (message default : String) (multiline : Bool) : Option String × Dialog :=
  (d.texts.head?.join,
    { d with texts := d.texts.tail, shown := d.shown ++ [.input message default multiline] })

/-- Shows a message and waits for a button. -/
def display (d : Dialog) (text : String) (kind : UInt32) : Option UInt32 × Dialog :=
  (d.buttons.head?.join,
    { d with buttons := d.buttons.tail, shown := d.shown ++ [.message text kind] })

end Dialog

end MailFormula
