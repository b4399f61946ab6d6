import HeaderRules.Number.Integer
import HeaderRules.Text.Quoted
import HeaderRules.Regex.Syntax
/-!
# Why a pattern is refused

Faults of the pattern text carry the offset at which they were noticed. A few refusals concern
the expression as a whole and have no offset.
-/

namespace HeaderRules.Regex

open HeaderRules.Text (quoted)

inductive Fault
  | danglingBackslash
  | badEscape (text : String)
  | incompleteEscape (text : String)
  | octalTooLarge (text : String)
  | missingBrace
  | missingName (what : String)
  | unterminatedName (close : Char)
  | undefinedCharacter (name : String)
  | badGroupName (name : String)
  | unknownGroup (name : String)
  | redefinedGroup (name : String) (index earlier : Nat)
  | openGroup
  | groupOfSameLookbehind
  | invalidGroup (index : Nat)
  | badGroupNumber
  | unterminatedSet
  | badRange (text : String)
  | nothingToRepeat
  | multipleRepeat
  | repeatBoundsSwapped
  | unexpectedEnd
  | unknownExtension (text : String)
  | unterminatedComment
  | unterminatedGroup
  | tooManyBranches
  | flagsNotAtStart
  | localeFlag
  | alphabetsExclude
  | flagListOpen
  | unknownFlag
  | globalFlagOn
  | globalFlagOff
  | missingFlag
  | alphabetOff
  | missingColon
  | flagOnAndOff
  | unbalancedParenthesis
deriving DecidableEq, Repr

namespace Fault

def message : Fault → String
  | danglingBackslash => "bad escape (end of pattern)"
  | badEscape text => "bad escape " ++ text
  | incompleteEscape text => "incomplete escape " ++ text
  | octalTooLarge text => "octal escape value " ++ text ++ " outside of range 0-0o377"
  | missingBrace => "missing \x7b"
  | missingName what => "missing " ++ what
  | unterminatedName close => "missing " ++ close.toString ++ ", unterminated name"
  | undefinedCharacter name => "undefined character name " ++ quoted name
  | badGroupName name => "bad character in group name " ++ quoted name
  | unknownGroup name => "unknown group name " ++ quoted name
  | redefinedGroup name index earlier =>
    "redefinition of group name " ++ quoted name ++ " as group " ++ toString index ++
      "; was group " ++ toString earlier
  | openGroup => "cannot refer to an open group"
  | groupOfSameLookbehind => "cannot refer to group defined in the same lookbehind subpattern"
  | invalidGroup index => "invalid group reference " ++ toString index
  | badGroupNumber => "bad group number"
  | unterminatedSet => "unterminated character set"
  | badRange text => "bad character range " ++ text
  | nothingToRepeat => "nothing to repeat"
  | multipleRepeat => "multiple repeat"
  | repeatBoundsSwapped => "min repeat greater than max repeat"
  | unexpectedEnd => "unexpected end of pattern"
  | unknownExtension text => "unknown extension ?" ++ text
  | unterminatedComment => "missing ), unterminated comment"
  | unterminatedGroup => "missing ), unterminated subpattern"
  | tooManyBranches => "conditional backref with more than two branches"
  | flagsNotAtStart => "global flags not at the start of the expression"
  | localeFlag => "bad inline flags: cannot use 'L' flag with a str pattern"
  | alphabetsExclude => "bad inline flags: flags 'a', 'u' and 'L' are incompatible"
  | flagListOpen => "missing -, : or )"
  | unknownFlag => "unknown flag"
  | globalFlagOn => "bad inline flags: cannot turn on global flag"
  | globalFlagOff => "bad inline flags: cannot turn off global flag"
  | missingFlag => "missing flag"
  | alphabetOff => "bad inline flags: cannot turn off flags 'a', 'u' and 'L'"
  | missingColon => "missing :"
  | flagOnAndOff => "bad inline flags: flag turned on and off"
  | unbalancedParenthesis => "unbalanced parenthesis"

end Fault

/-- Reasons to refuse a pattern. The first group refuses it as a pattern; `hugeRepeat`,
`hugeCode`, `longNumber` and `alphabetConflict` are limits that are reported apart. -/
inductive Error
  | fault (fault : Fault) (position : Nat)
  | lookbehindWidth
  | lookbehindTooWide
  | repeatForbidden (greed : Greed)
  | hugeRepeat
  | hugeCode
  | longNumber (digits : Nat)
  | alphabetConflict
deriving DecidableEq, Repr

/-- The offset of a fault, and in a pattern of several lines also its line and column. -/
def positionText (pattern : List Char) (position : Nat) : String :=
  let before := pattern.take position
  let line := before.count '\n' + 1
  let column := (before.reverse.takeWhile (· ≠ '\n')).length + 1
  " at position " ++ toString position ++
    if pattern.contains '\n' then
      " (line " ++ toString line ++ ", column " ++ toString column ++ ")"
    else ""

namespace Error

/-- Whether the pattern is at fault, rather than a limit exceeded. -/
def isInvalidPattern : Error → Bool
  | fault .. | lookbehindWidth | lookbehindTooWide | repeatForbidden _ => true
  | hugeRepeat | hugeCode | longNumber _ | alphabetConflict => false

def message (pattern : List Char) : Error → String
  | fault f position => f.message ++ positionText pattern position
  | lookbehindWidth => "look-behind requires fixed-width pattern"
  | lookbehindTooWide => "looks too much behind"
  | repeatForbidden greed =>
    "internal: unsupported template operator " ++
      match greed with
      | .greedy => "MAX_REPEAT"
      | .lazy => "MIN_REPEAT"
      | .possessive => "POSSESSIVE_REPEAT"
  | hugeRepeat => "the repetition number is too large"
  | hugeCode => "Python int too large to convert to C int"
  | longNumber digits => Number.tooLongToRead digits
  | alphabetConflict => "ASCII and UNICODE flags are incompatible"

end Error

end HeaderRules.Regex
