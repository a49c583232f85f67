import TargetEval.Series.Basic
import TargetEval.Time.Seconds

set_option autoImplicit false

namespace TargetEval

structure FetchKey where
  metric : String
  window : Window
deriving DecidableEq, Repr

structure SeriesIndex where
  entries : List (FetchKey × List Series)
deriving Repr

namespace SeriesIndex

def empty : SeriesIndex := ⟨[]⟩

def single (key : FetchKey) (series : List Series) : SeriesIndex := ⟨[(key, series)]⟩

def get (index : SeriesIndex) (key : FetchKey) : List Series :=
  (index.entries.lookup key).getD []

def append (key : FetchKey) (series : List Series) :
    List (FetchKey × List Series) → List (FetchKey × List Series)
  | [] => [(key, series)]
  | (k, old) :: rest => if k = key then (k, old ++ series) :: rest else (k, old) :: append key series rest

-- The index after an insertion, with the error of the first malformed series, if there is one.
def insert (index : SeriesIndex) (key : FetchKey) (series : List Series) : SeriesIndex × Option Error :=
  match series.forM Series.check with
  | .ok () => (⟨append key series index.entries⟩, none)
  | .error e => (index, some e)

def size (index : SeriesIndex) : Nat := index.entries.length

def isEmpty (index : SeriesIndex) : Bool := index.entries.isEmpty

end SeriesIndex

end TargetEval
