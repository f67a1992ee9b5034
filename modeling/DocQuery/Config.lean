import DocQuery.Compile.Operand
import DocQuery.Json.Record

/-!
# Configurations

The settings under which queries run: how many may run at once, the read options that a query gets
where it sets none itself, and how bound values are encoded.
-/

namespace DocQuery

/-- The settings of an executor. -/
structure Config where
  /-- The largest number of operations that may run at once. -/
  maxInFlight : UInt64
  allowDiskUse : Bool
  batchSize : Option UInt32
  maxTimeMs : Option UInt64
  /-- Whether bound values take their readable form. -/
  humanReadableBinds : Bool
deriving DecidableEq, Repr

namespace Config

/-- The settings that hold where none are given. -/
def standard : Config := ⟨16, false, none, none, false⟩

/-- The encoder of a configuration. -/
def encoder (config : Config) : Encoder := ⟨config.humanReadableBinds⟩

/-- Read options with those of a configuration where they are not set. -/
def completeOptions (config : Config) (options : ReadOptions) : ReadOptions where
  allowDiskUse := options.allowDiskUse.or (some config.allowDiskUse)
  batchSize := options.batchSize.or config.batchSize
  maxTimeMs := options.maxTimeMs.or config.maxTimeMs
  comment := options.comment

/-- The settings of a JSON record; those that are not written hold as in `standard`. -/
def ofJson? (json : Json) : Option Config := do
  let record ← json.record?
    ["max_in_flight", "allow_disk_use", "batch_size", "max_time_ms", "human_readable_binds"]
  return {
    maxInFlight := ← record.orDefault? "max_in_flight" standard.maxInFlight Json.asUInt64?
    allowDiskUse := ← record.orDefault? "allow_disk_use" false Json.asBool?
    batchSize := ← record.optional? "batch_size" Json.asUInt32?
    maxTimeMs := ← record.optional? "max_time_ms" Json.asUInt64?
    humanReadableBinds := ← record.orDefault? "human_readable_binds" false Json.asBool? }

end Config

end DocQuery
