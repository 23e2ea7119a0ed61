/-
**All sample records.**

* `Sample.find?`: the sample of a name.
-/

import KeyedRecord.Sample.Computed
import KeyedRecord.Sample.Observed
import KeyedRecord.Sample.Stored

namespace KeyedRecord.Sample

/-- All samples. -/
def catalogue : List Sample :=
  [entity, renamedMembers, withExcluded, summary, full, token, malformed, tagged, listed, message,
   clash, counter, widths, vectors, shadow, overlap, onlyComputed, observed]

/-- The sample whose record has the name. -/
def find? (name : String) : Option Sample :=
  catalogue.find? fun sample => sample.record.name.text == name

end KeyedRecord.Sample
