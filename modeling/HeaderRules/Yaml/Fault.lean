import HeaderRules.Calendar
import HeaderRules.Number.Integer
import HeaderRules.Text.Utf8
/-!
# Why a document cannot be read

A document is malformed when its text breaks the rules of the format or asks for what no reader
knows. Apart from that, bytes may spell no text, and a text may be marked as a kind of value that
it does not spell.
-/

namespace HeaderRules.Yaml

inductive Fault
  | malformed
  | undecodable (byte : UInt8) (start length : Nat) (reason : Text.Utf8.Reason)
  | codeOutOfRange
  | codeTooLarge
  | notInteger (base : Nat) (text : String)
  | integerTooLong (digits : Nat)
  | notFloat (text : String)
  | floatOverflow
  | emptyNumber
  | notBoolean (text : String)
  | notTimestamp
  | timestampOfMapping
  | calendar (fault : Calendar.Fault)
deriving DecidableEq, Repr

/-- The wording of a fault. For malformed documents it is a stand-in. -/
def Fault.message : Fault → String
  | malformed => "<yaml error>"
  | undecodable byte start length reason =>
    "'utf-8' codec can't decode " ++
      (if length = 1 then
        "byte 0x" ++ String.ofList (Text.digitsPadded 16 2 byte.toNat) ++ " in position " ++
          toString start
      else "bytes in position " ++ toString start ++ "-" ++ toString (start + length - 1)) ++
      ": " ++ reason.message
  | codeOutOfRange => "chr() arg not in range(0x110000)"
  | codeTooLarge => "Python int too large to convert to C int"
  | notInteger base text => Number.malformedMessage base text
  | integerTooLong digits => Number.tooLongToRead digits
  | notFloat text => "could not convert string to float: " ++ Text.quoted text
  | floatOverflow => "int too large to convert to float"
  | emptyNumber => "string index out of range"
  | notBoolean text => Text.quoted text
  | notTimestamp => "'NoneType' object has no attribute 'groupdict'"
  | timestampOfMapping => "expected string or bytes-like object, got 'list'"
  | calendar fault => fault.message

end HeaderRules.Yaml
