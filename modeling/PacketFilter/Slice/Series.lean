/-
This file holds a series of slices, in order, with totals that are kept up to date whenever a
slice is put in at either end: the count of bytes that the slices cover together, as long as none
of them runs to the end, and the least and greatest start offset.
-/

import PacketFilter.Bytes
import PacketFilter.Slice.Basic

namespace PacketFilter

/-- Slices in order, with totals over them. -/
structure SliceSeries where
  slices : List Slice
  /-- Whether no slice runs to the end. -/
  hasTotal : Bool
  /-- The sum of what the slices cover. It is not kept up once a slice runs to the end. -/
  total : Int32
  leastStart : Int32
  greatestStart : Int32
  deriving DecidableEq

namespace SliceSeries

/-- No slices. The least start offset of none is the greatest that there is, and conversely. -/
def empty : SliceSeries :=
  ⟨[], true, 0, Int32.maxValue, Int32.minValue⟩

/-- The sum of two counts; one that leaves the range of counts stays at its end. -/
def addCounts (left right : Int32) : Int32 :=
  Int32.ofIntClamp (left.toInt + right.toInt)

/-- The totals with one more slice taken into account. A slice whose ending is not set has no
place in a series. -/
def count (series : SliceSeries) (slice : Slice) : Except Fault SliceSeries :=
  match slice.span with
  | .error fault => .error fault
  | .ok span =>
    .ok { series with
      hasTotal := series.hasTotal && span.isSome
      total :=
        match span with
        | some covered => if series.hasTotal then addCounts series.total covered else series.total
        | none => series.total
      leastStart := if slice.start < series.leastStart then slice.start else series.leastStart
      greatestStart :=
        if series.greatestStart < slice.start then slice.start else series.greatestStart }

/-- Puts a slice behind the others. -/
def append (series : SliceSeries) (slice : Slice) : Except Fault SliceSeries :=
  (series.count slice).map fun counted => { counted with slices := series.slices ++ [slice] }

theorem slices_of_append {series longer : SliceSeries} {slice : Slice}
    (appended : series.append slice = .ok longer) : longer.slices = series.slices ++ [slice] := by
  simp only [append] at appended
  cases counted : series.count slice with
  | error fault => simp [counted, Except.map] at appended
  | ok counts =>
    simp only [counted, Except.map, Except.ok.injEq] at appended
    rw [← appended]

/-- Puts a slice in front of the others. -/
def prepend (series : SliceSeries) (slice : Slice) : Except Fault SliceSeries :=
  (series.count slice).map fun counted => { counted with slices := slice :: series.slices }

/-- Puts slices behind the others, one after the other. -/
def appendAll (series : SliceSeries) : List Slice → Except Fault SliceSeries
  | [] => .ok series
  | slice :: rest =>
    match series.append slice with
    | .error fault => .error fault
    | .ok series => series.appendAll rest

/-- The series of the given slices. -/
def ofSlices (slices : List Slice) : Except Fault SliceSeries :=
  empty.appendAll slices

/-- The bytes that slices select from the data, one after the other, if all of them lie in
it. -/
def select (data : Bytes) : List Slice → Except Fault (Option Bytes)
  | [] => .ok (some [])
  | slice :: rest => do
    match ← slice.resolve data.length with
    | none => return none
    | some (start, stop) =>
      let first ← data.between start stop
      let others? ← select data rest
      return others?.map fun others => first ++ others

/-- The bytes that the series selects from the data, if every slice lies in it. -/
def apply (series : SliceSeries) (data : Bytes) : Except Fault (Option Bytes) :=
  select data series.slices

/-- The text of a series: its slices with commas between them. -/
def text (series : SliceSeries) : String :=
  String.intercalate "," (series.slices.map Slice.text)

end SliceSeries

end PacketFilter
