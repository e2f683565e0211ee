import BulkProvision.Text.Digits

/-!
# Durations

A duration in whole milliseconds is written in seconds from one second on, with the decimals it
needs and no more, and in milliseconds below that.
-/

namespace BulkProvision

namespace Text

/-- A duration given in milliseconds. -/
def duration (milliseconds : Nat) : String :=
  let seconds := milliseconds / 1000
  let rest := milliseconds % 1000
  if 0 < seconds then
    if rest = 0 then toString seconds ++ "s"
    else toString seconds ++ "." ++ String.ofList (trimZeros (fixedWidth 3 rest)) ++ "s"
  else if 0 < rest then toString rest ++ "ms"
  else "0ns"

end Text

end BulkProvision
