import HandlerDocs.Text.Basic

/-!
# Categories of types

Types of the standard library are sorted into categories by their name alone. A full name is looked
up as it is; a name with a single segment also stands for the full names that end in it. The first
row of the table that fits decides.

* `Category.ofName?` — the category of a type name; generic arguments are ignored.
* `isCommonLeaf`, `isCollection` — the two questions that documentation asks.
* `JsonKind.ofName` — how a leaf is written in JSON.
-/

namespace HandlerDocs

/-- What the values of a standard type are. -/
inductive Category
  | character
  | numeric
  | boolean
  | temporal
  | collection
  deriving DecidableEq, Repr

/-- What a row of the table says about a name. -/
inductive NamePattern
  /-- The full name. -/
  | exactly (name : String)
  /-- Every name that starts with a package. -/
  | within (package : String)
  deriving DecidableEq, Repr

/-- Whether a pattern fits a type name. -/
def NamePattern.fits (typeName : String) : NamePattern → Bool
  | exactly name => name == typeName || (!isQualified typeName && simpleName name == typeName)
  | within package => package.toList.isPrefixOf typeName.toList

namespace Category

/-- The names of a category. -/
def patterns : Category → List NamePattern
  | character =>
    [.exactly "char", .exactly "java.lang.Character", .exactly "java.lang.String",
      .exactly "java.lang.CharSequence", .exactly "java.util.UUID"]
  | numeric =>
    [.exactly "byte", .exactly "short", .exactly "int", .exactly "long", .exactly "float",
      .exactly "double", .exactly "java.lang.Byte", .exactly "java.lang.Short",
      .exactly "java.lang.Integer", .exactly "java.lang.Long", .exactly "java.lang.Float",
      .exactly "java.lang.Double", .exactly "java.lang.Number", .exactly "java.math.BigDecimal",
      .exactly "java.math.BigInteger", .exactly "java.util.concurrent.atomic.AtomicInteger",
      .exactly "java.util.concurrent.atomic.AtomicLong"]
  | boolean =>
    [.exactly "boolean", .exactly "java.lang.Boolean",
      .exactly "java.util.concurrent.atomic.AtomicBoolean"]
  | temporal =>
    [.within "java.time.", .exactly "java.time.LocalDate", .exactly "java.time.LocalDateTime",
      .exactly "java.time.LocalTime", .exactly "java.time.Instant",
      .exactly "java.time.ZonedDateTime", .exactly "java.time.OffsetDateTime",
      .exactly "java.time.OffsetTime", .exactly "java.time.YearMonth", .exactly "java.time.Year",
      .exactly "java.time.MonthDay", .exactly "java.time.Duration", .exactly "java.time.Period",
      .exactly "java.util.Date", .exactly "java.util.Calendar", .exactly "java.sql.Date",
      .exactly "java.sql.Timestamp", .exactly "java.sql.Time"]
  | collection =>
    [.exactly "java.lang.Iterable", .exactly "java.util.Collection", .exactly "java.util.List",
      .exactly "java.util.ArrayList", .exactly "java.util.LinkedList", .exactly "java.util.Set",
      .exactly "java.util.HashSet", .exactly "java.util.LinkedHashSet",
      .exactly "java.util.TreeSet", .exactly "java.util.SortedSet",
      .exactly "java.util.NavigableSet", .exactly "java.util.Queue",
      .exactly "java.util.Deque", .exactly "java.util.ArrayDeque"]

/-- All categories, in the order of the table. -/
def all : List Category :=
  [character, numeric, boolean, temporal, collection]

/-- The part of a type name in front of its generic arguments, without blanks at its ends. -/
def rawName (typeName : String) : String :=
  String.ofList (Text.trim (typeName.toList.takeWhile (· != '<')))

/-- The category of a type name. -/
def ofName? (typeName : String) : Option Category :=
  let name := rawName typeName
  if name = "" then none
  else all.find? fun category => category.patterns.any (·.fits name)

/-- Whether values of a category are documented as one leaf. -/
def isLeaf : Category → Bool
  | collection => false
  | _ => true

end Category

/-- Whether a type name is of a category. -/
def isOfCategory (category : Category) (typeName : String) : Bool :=
  Category.ofName? typeName == some category

/-- Whether a type name is of a category whose values are documented as one leaf. -/
def isCommonLeaf (typeName : String) : Bool :=
  (Category.ofName? typeName).any Category.isLeaf

/-- Whether a type name is that of a collection. -/
def isCollection (typeName : String) : Bool :=
  isOfCategory .collection typeName

/-- A type name is not at once that of a common leaf and of a collection. -/
theorem not_isCollection_of_isCommonLeaf {typeName : String} (h : isCommonLeaf typeName = true) :
    isCollection typeName = false := by
  unfold isCommonLeaf at h
  unfold isCollection isOfCategory
  cases hc : Category.ofName? typeName with
  | none => rfl
  | some category =>
    rw [hc] at h
    cases category <;> first | rfl | exact absurd h (by decide)

/-! ### JSON types of leaves -/

/-- The JSON type of a documented leaf. -/
inductive JsonKind
  | number
  | boolean
  | string
  deriving DecidableEq, Repr

namespace JsonKind

/-- The name of a JSON type in a snippet. -/
def name : JsonKind → String
  | number => "NUMBER"
  | boolean => "BOOLEAN"
  | string => "STRING"

/-- Numeric and boolean names have JSON types of their own; every other value is a string. -/
def ofName (typeName : String) : JsonKind :=
  match Category.ofName? typeName with
  | some .numeric => number
  | some .boolean => boolean
  | _ => string

end JsonKind

end HandlerDocs
