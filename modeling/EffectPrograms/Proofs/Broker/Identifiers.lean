import EffectPrograms.Memory.Broker
import EffectPrograms.Proofs.Numerals

set_option autoImplicit false

namespace EffectPrograms.Memory

def decimal (digits : List Char) : Nat := Nat.ofDigitChars 10 digits 0

namespace BrokerTable

-- From this number on the identifiers outgrow their eight digits.
def idRange : Nat := 100000000

def padded (n : Nat) : List Char :=
  List.replicate (8 - (Nat.toDigits 10 n).length) '0' ++ Nat.toDigits 10 n

theorem toList_messageId (n : Nat) : (messageId n).toList = "msg-".toList ++ padded n := by
  simp [messageId, padded]

theorem decimal_padded (n : Nat) : decimal (padded n) = n := Decimal.ofDigitChars_zeros _ n

theorem messageId_injective {m n : Nat} (same : messageId m = messageId n) : m = n := by
  have lists := congrArg String.toList same
  rw [toList_messageId, toList_messageId] at lists
  rw [← decimal_padded m, ← decimal_padded n, List.append_cancel_left lists]

theorem length_padded {n : Nat} (small : n < idRange) : (padded n).length = 8 :=
  Decimal.length_zeros (by decide) small

theorem messageId_lt {m n : Nat} (less : m < n) (small : n < idRange) :
    messageId m < messageId n := by
  have lengths : (padded m).length = (padded n).length := by
    rw [length_padded (Nat.lt_trans less small), length_padded small]
  have values : decimal (padded m) < decimal (padded n) := by
    rwa [decimal_padded, decimal_padded]
  rw [String.lt_iff, toList_messageId, toList_messageId]
  exact List.append_left_lt (Decimal.lt_of_ofDigitChars_lt lengths
    (fun _ => Decimal.isDigit_of_mem_zeros) (fun _ => Decimal.isDigit_of_mem_zeros) values)

end BrokerTable
end EffectPrograms.Memory
