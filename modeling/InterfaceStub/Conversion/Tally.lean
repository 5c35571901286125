/-!
# Tallies

What became of the files of a run, as counters of 64 bits that wrap.
-/

namespace InterfaceStub

/-- What became of the files of a run. -/
structure Tally where
  /-- The files taken up. -/
  total : UInt64 := 0
  /-- The stubs written. -/
  converted : UInt64 := 0
  /-- The files whose stub was there. -/
  skipped : UInt64 := 0
  /-- The files that could not be read, parsed or written. -/
  failed : UInt64 := 0
  /-- The diagnostics reported. -/
  diagnostics : UInt64 := 0
  deriving DecidableEq, Repr

namespace Tally

def countTotal (tally : Tally) : Tally :=
  { tally with total := tally.total + 1 }

def countConverted (tally : Tally) : Tally :=
  { tally with converted := tally.converted + 1 }

def countSkipped (tally : Tally) : Tally :=
  { tally with skipped := tally.skipped + 1 }

def countFailed (tally : Tally) : Tally :=
  { tally with failed := tally.failed + 1 }

def countDiagnostics (tally : Tally) (count : UInt64) : Tally :=
  { tally with diagnostics := tally.diagnostics + count }

/-- Whether every file taken up was converted. -/
def allConverted (tally : Tally) : Bool :=
  tally.converted == tally.total

/-- One line on a run; nothing when all went well. -/
def summary (tally : Tally) : String :=
  if tally.allConverted && tally.diagnostics == 0 then ""
  else
    tally.converted.toNat.repr ++ " of " ++ tally.total.toNat.repr ++ " files converted (" ++
      tally.skipped.toNat.repr ++ " skipped, " ++ tally.failed.toNat.repr ++ " failed, " ++
      tally.diagnostics.toNat.repr ++ " diagnostics)\n"

end Tally

end InterfaceStub
