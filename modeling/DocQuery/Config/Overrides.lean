import DocQuery.Config
import DocQuery.Text.Blank
import DocQuery.Text.Number

/-!
# Overrides of settings

Each setting has a variable that overrides it.  A variable whose value cannot be read changes
nothing.
-/

namespace DocQuery

namespace Config

/-- The variable for the largest number of running operations. -/
def maxInFlightVariable : String := "DOCPIPE_MAX_IN_FLIGHT"

/-- The variable for the use of disk space. -/
def allowDiskUseVariable : String := "DOCPIPE_ALLOW_DISK_USE"

/-- The variable for the batch size. -/
def batchSizeVariable : String := "DOCPIPE_BATCH_SIZE"

/-- The variable for the time limit. -/
def maxTimeMsVariable : String := "DOCPIPE_MAX_TIME_MS"

/-- The variable for the form of bound values. -/
def humanReadableBindsVariable : String := "DOCPIPE_HUMAN_READABLE_BINDS"

/-- The variables that override settings. -/
def variableNames : List String :=
  [maxInFlightVariable, allowDiskUseVariable, batchSizeVariable, maxTimeMsVariable,
    humanReadableBindsVariable]

/-- The truth value that a word stands for, in any case and between blanks. -/
def flag? (text : String) : Option Bool :=
  let word := String.ofList ((Text.trim text).toList.map Char.toLower)
  if word ∈ ["1", "true", "yes", "on"] then some true
  else if word ∈ ["0", "false", "no", "off"] then some false
  else none

/-- The unsigned 32-bit integer that a text stands for. -/
def uint32? (text : String) : Option UInt32 :=
  (Text.unsigned? (UInt32.size - 1) text).map UInt32.ofNat

/-- The unsigned 64-bit integer that a text stands for. -/
def uint64? (text : String) : Option UInt64 :=
  (Text.unsigned? (UInt64.size - 1) text).map UInt64.ofNat

/-- The settings after the overrides of the variables that a look-up finds. -/
def override (config : Config) (lookup : String → Option String) : Config where
  maxInFlight := ((lookup maxInFlightVariable).bind uint64?).getD config.maxInFlight
  allowDiskUse := ((lookup allowDiskUseVariable).bind flag?).getD config.allowDiskUse
  batchSize := ((lookup batchSizeVariable).bind uint32?).or config.batchSize
  maxTimeMs := ((lookup maxTimeMsVariable).bind uint64?).or config.maxTimeMs
  humanReadableBinds :=
    ((lookup humanReadableBindsVariable).bind flag?).getD config.humanReadableBinds

end Config

end DocQuery
