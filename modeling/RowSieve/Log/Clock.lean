import RowSieve.Calendar.DateTime

/-! The time that a log line carries: the moment in UTC to the microsecond, such as
`2024-03-07T12:30:00.250000Z`. -/
namespace RowSieve.Log

open Calendar

def clockText (seconds micros : Nat) : Text :=
  let d := Date.epoch.later (seconds / 86400)
  DateTime.renderYear d.year ++ '-' :: DateTime.renderTwo d.month ++
    '-' :: DateTime.renderTwo d.day ++ 'T' :: DateTime.renderTwo (seconds / 3600 % 24) ++
    ':' :: DateTime.renderTwo (seconds / 60 % 60) ++
    ':' :: DateTime.renderTwo (seconds % 60) ++
    '.' :: Text.padLeft 6 '0' (Text.decimal (micros % 1000000)) ++ ['Z']

end RowSieve.Log
