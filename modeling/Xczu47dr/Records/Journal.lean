import Mathlib.Data.List.Basic
import Xczu47dr.Clocked.Indices

/-! # Journals

What has happened, the newest entry first, and claims about an entry that what
was entered before it has to bear out.
-/

namespace Records

variable {α : Type}

/-- Every entry is borne out by the entries before it. -/
def Warranted (claim : List α → α → Prop) : List α → Prop
  | [] => True
  | entry :: before => claim before entry ∧ Warranted claim before

end Records
