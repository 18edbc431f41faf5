/-!
# Address — texts without memory addresses

A text that names where something lies in memory differs from run to run.  Leaving every address out makes equal
results equal texts.
-/
namespace ArrayTyping

def isAddressDigit (c : Char) : Bool := c.isDigit || (decide ('a' ≤ c) && decide (c ≤ 'f'))

/-- What follows an address at the front, if there is one with at least one digit. -/
def dropAddress? : List Char → Option (List Char)
  | ' ' :: 'a' :: 't' :: ' ' :: '0' :: 'x' :: d :: rest =>
    if isAddressDigit d then some (rest.dropWhile isAddressDigit) else none
  | _ => none

/-- An address takes up room. -/
theorem length_lt_of_dropAddress? {cs rest : List Char} (h : dropAddress? cs = some rest) :
    rest.length < cs.length := by
  unfold dropAddress? at h
  split at h
  · split at h
    · cases h
      rename_i _ rest _
      have hle : (rest.dropWhile isAddressDigit).length ≤ rest.length := (List.dropWhile_sublist _).length_le
      simp only [List.length_cons]
      omega
    · cases h
  · cases h

def withoutAddressChars (cs : List Char) : List Char :=
  match _h : dropAddress? cs with
  | some rest => withoutAddressChars rest
  | none =>
    match cs with
    | [] => []
    | c :: cs => c :: withoutAddressChars cs
termination_by cs.length
decreasing_by
  · exact length_lt_of_dropAddress? (by assumption)
  · simp

def withoutAddresses (s : String) : String := String.ofList (withoutAddressChars s.toList)

end ArrayTyping
