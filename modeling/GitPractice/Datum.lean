/-!
# Documents as data

Lesson files, snapshots and settings are documents in one of two formats. Both are read into a
`Datum`, from which the records are decoded. A table lists its entries in the order of the document
and may hold a key more than once; what that means is for the record to say. Values that no record
can hold, such as a number with a fraction, are all `other`.
-/

namespace GitPractice

inductive Datum where
  | null
  | bool (value : Bool)
  | integer (value : Int)
  | text (value : String)
  | list (items : List Datum)
  | table (entries : List (String × Datum))
  | other
  deriving Repr, Inhabited

end GitPractice
