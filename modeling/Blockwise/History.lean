import Blockwise.Message

/-!
# The history of requests

Two requests count as the same when code, path and options agree; message id
and token tell retransmissions apart and are left out.  The history keeps every
request that was seen, in order of arrival.
-/

namespace Blockwise

/-- What makes two requests the same. -/
structure RequestRecord where
  code : Code
  path : String
  options : Options
  deriving DecidableEq

/-- The record of a request. -/
def Message.record (request : Message) : RequestRecord :=
  { code := request.code, path := request.path, options := request.options }

/-- The requests seen, first one first. -/
structure History where
  records : List RequestRecord
  deriving DecidableEq

namespace History

/-- Nothing seen yet. -/
def empty : History := ⟨[]⟩

/-- How many requests were seen. -/
def length (history : History) : Nat := history.records.length

/-- How often a request was seen. -/
def count (history : History) (record : RequestRecord) : Nat := history.records.count record

/-- The history with one more request. -/
def push (history : History) (record : RequestRecord) : History := ⟨history.records ++ [record]⟩

/-- Counts the earlier requests of the same kind, then records this one. -/
def arrive (history : History) (record : RequestRecord) : Nat × History :=
  (history.count record, history.push record)

end History
end Blockwise
