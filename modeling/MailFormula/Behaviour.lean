import MailFormula.Behaviour.Message
import MailFormula.Behaviour.Outside
import MailFormula.Behaviour.Pattern
/-!
# Behaviour of the built-ins

The action of every built-in. Some built-ins receive their arguments as formulas, all others as
values; which is which, `Builtin.isLazy` says.
-/

namespace MailFormula.Builtin

open MailFormula.Behaviour

/-- The action of a built-in that receives its arguments unevaluated. -/
def onFormulas : Builtin → List Formula → Action Value
  | choose => Behaviour.choose
  | conjunction => Behaviour.conjunction
  | disjunction => Behaviour.disjunction
  | loop => Behaviour.loop
  | recover => Behaviour.recover
  | defun => Behaviour.defun
  | forEach => Behaviour.forEach
  | findEach => Behaviour.findEach
  | _ => fun _ => .failWith .invalidArgSize

/-- The action of a built-in that receives the values of its arguments. -/
def onValues : Builtin → List Value → Action Value
  | negation => Behaviour.negation
  | constant b => fun _ => .done (.boolean b)
  | progn => Behaviour.progn
  | exit => Behaviour.exit
  | eval => Behaviour.eval
  | includeFile => Behaviour.includeFile
  | set => Behaviour.set
  | variableValue => Behaviour.variableValue
  | additive subtract => Behaviour.additive subtract
  | equal => Behaviour.equal
  | relative less orEqual => Behaviour.relative less orEqual
  | contain atStart => Behaviour.contain atStart
  | find => Behaviour.findText
  | concat => Behaviour.concat
  | length => Behaviour.length
  | substring => Behaviour.substring
  | replace => Behaviour.replace
  | quote => Behaviour.quote
  | regex => Behaviour.regex
  | regexFind => Behaviour.regexFind
  | regexMatch => Behaviour.regexMatch
  | regexReplace => Behaviour.regexReplace
  | group => Behaviour.group
  | field => Behaviour.field
  | header => Behaviour.header
  | address => Behaviour.address
  | name => Behaviour.name
  | body => Behaviour.body
  | part => Behaviour.part
  | partCount => Behaviour.partCount
  | attachment => Behaviour.attachment
  | id => ofMessage (fun m => .number m.id)
  | size => ofMessage (fun m => .number m.size)
  | date => ofMessage (fun m => .time m.date)
  | folder => Behaviour.folder
  | account => Behaviour.account
  | messages => Behaviour.messages
  | selected => Behaviour.selected
  | flag f => Behaviour.flag f
  | thread => Behaviour.thread
  | execute => Behaviour.execute
  | load => Behaviour.load
  | save => Behaviour.save
  | profile => Behaviour.profile
  | setProfile => Behaviour.setProfile
  | inputBox => Behaviour.inputBox
  | messageBox => Behaviour.messageBox
  | now => Behaviour.now
  | formatDate => Behaviour.formatDate
  | _ => fun _ => .failWith .invalidArgSize

end MailFormula.Builtin
