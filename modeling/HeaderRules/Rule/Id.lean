import HeaderRules.Text.Raw
/-!
# Rule ids

The id of a compiled rule is a hash of the profile and the matcher that it comes from, so that it
stays the same when the profile is compiled again. The hash is FNV-1a of 32 bits, reduced to the
range of ids. It is a hash of bytes, so ids without a UTF-8 form have none.
-/

namespace HeaderRules.RuleId

def least : Int := 1

def greatest : Int := 2147483647

def offsetBasis : UInt32 := 0x811C9DC5

def prime : UInt32 := 0x01000193

def mix (hash : UInt32) (byte : UInt8) : UInt32 := (hash ^^^ byte.toUInt32) * prime

def fnv1a (bytes : List UInt8) : UInt32 := bytes.foldl mix offsetBasis

def ofBytes (bytes : List UInt8) : Int := ((fnv1a bytes).toNat % (greatest.toNat - 1) + 1 : Nat)

def ofText (s : RawText) : Except RawText.EncodeFault Int := s.encode.map ofBytes

/-- The text that stands for a pair of a profile and a matcher. -/
def key (profile matcher : RawText) : RawText :=
  profile ++ RawText.ofString ":" ++ matcher ++ RawText.ofString ":reqres"

def ofPair (profile matcher : RawText) : Except RawText.EncodeFault Int :=
  ofText (key profile matcher)

end HeaderRules.RuleId
