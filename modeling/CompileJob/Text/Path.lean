namespace CompileJob.Path

def lastPart (path : List Char) : List Char := (path.reverse.takeWhile (· ≠ '/')).reverse

def leading (path : List Char) : List Char := (path.reverse.dropWhile (· ≠ '/')).reverse

def dropTrailingSlashes (path : List Char) : List Char :=
  (path.reverse.dropWhile (· = '/')).reverse

/-- `part` below `dir`; a `part` that starts with the separator stands for itself. -/
def joinParts {α : Type} [BEq α] (separator : α) (dir part : List α) : List α :=
  if part.head? == some separator then part
  else if dir.isEmpty || dir.getLast? == some separator then dir ++ part
  else dir ++ separator :: part

def join (dir part : String) : String := String.ofList (joinParts '/' dir.toList part.toList)

def dirname (path : String) : String :=
  let lead := leading path.toList
  if lead.all (· = '/') then String.ofList lead else String.ofList (dropTrailingSlashes lead)

def basename (path : String) : String := String.ofList (lastPart path.toList)

def stem (name : List Char) : List Char := ((name.reverse.dropWhile (· ≠ '.')).drop 1).reverse

def afterLastDot (name : List Char) : List Char := (name.reverse.takeWhile (· ≠ '.')).reverse

/-- What follows the last dot of the last part. A name whose only dots lead it has no extension. -/
def extension (path : String) : String :=
  let name := lastPart path.toList
  if (stem name).any (· ≠ '.') then String.ofList (afterLastDot name) else ""

end CompileJob.Path
