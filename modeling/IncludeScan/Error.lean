/-!
What can go wrong, as causes, and the wording of each cause.

* `IoError`: a file cannot be read or written.
* `StoreError`: a stored index cannot be opened or written, or holds a number outside its range.
* `IndexError`: a query of an index fails.
* `ScanError`: a scan or a removal fails.
-/

set_option autoImplicit false

namespace IncludeScan

inductive IoError where
  | notFound
  | notDirectory
  | isDirectory
  | nameTooLong
  | linkLoop
  | nulInName
  | notText
  deriving DecidableEq, Repr

def IoError.message : IoError → String
  | notFound => "No such file or directory (os error 2)"
  | notDirectory => "Not a directory (os error 20)"
  | isDirectory => "Is a directory (os error 21)"
  | nameTooLong => "File name too long (os error 36)"
  | linkLoop => "Too many levels of symbolic links (os error 40)"
  | nulInName => "file name contained an unexpected NUL byte"
  | notText => "stream did not contain valid UTF-8"

inductive StoreError where
  | cannotOpen (path : String)
  | notAStore
  | readOnly
  | unreadable
  | noJournal
  | nulInName (position : Nat)
  | badAuthority (text : String)
  | noSuchMode (kind value : String)
  | modeNotAllowed (value : String)
  | noSuchFileSystem (name : String)
  | outOfRange (value : Int64) (column : Nat)
  deriving DecidableEq, Repr

def StoreError.message : StoreError → String
  | cannotOpen path => "unable to open database file: " ++ path
  | notAStore => "file is not a database"
  | readOnly => "attempt to write a readonly database"
  | unreadable => "disk I/O error"
  | noJournal => "unable to open database file"
  | nulInName position => s!"nul byte found in provided data at position: {position}"
  | badAuthority text => "invalid uri authority: " ++ text
  | noSuchMode kind value => "no such " ++ kind ++ " mode: " ++ value
  | modeNotAllowed value => "access mode not allowed: " ++ value
  | noSuchFileSystem name => "no such vfs: " ++ name
  | outOfRange value column => s!"Integer {value.toInt} out of range at index {column}"

/-- Why an index gives no answer. `crashed` stands for a query that takes down the scan it
serves. -/
inductive IndexError where
  | io (cause : IoError)
  | malformedSnapshot
  | store (cause : StoreError)
  | unknownUnit (name : String)
  | query (reason : String)
  | crashed
  deriving DecidableEq, Repr

def IndexError.message : IndexError → String
  | io cause => "IO error: " ++ cause.message
  | malformedSnapshot => "JSON error: not a snapshot"
  | store cause => "Database error: " ++ cause.message
  | unknownUnit name => "Unknown unit: " ++ name
  | query reason => "Query error: " ++ reason
  | crashed => "Query error: query task failed"

inductive PatternError where
  | malformed
  | tooLarge
  deriving DecidableEq, Repr

def PatternError.message : PatternError → String
  | malformed => "regex parse error:"
  | tooLarge => "Compiled regex exceeds size limit of 10485760 bytes."

/-- Why a scan or a removal fails. `tooManyPermits` takes down the program that asks for the
scan. -/
inductive ScanError where
  | index (cause : IndexError)
  | io (cause : IoError)
  | pattern (text : String) (cause : PatternError)
  | task
  | tooManyPermits
  deriving DecidableEq, Repr

def ScanError.message : ScanError → String
  | index cause => "Index error: " ++ cause.message
  | io cause => "IO error: " ++ cause.message
  | pattern text cause => "Invalid pattern: " ++ text ++ ": " ++ cause.message
  | task => "Task error: scan task failed"
  | tooManyPermits =>
    "a semaphore may not have more than MAX_PERMITS permits (2305843009213693951)"

end IncludeScan
