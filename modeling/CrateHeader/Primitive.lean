/-!
# Primitive types

The types that need no declaration, each with its spelling in type texts and its spelling in C. Fixed-width
names of C are accepted in type texts as a second spelling.
-/

namespace CrateHeader

inductive Primitive where
  | void
  | bool
  | char32
  | i8
  | i16
  | i32
  | i64
  | u8
  | u16
  | u32
  | u64
  | isize
  | usize
  | f32
  | f64
  | cChar
  | cSChar
  | cUChar
  | cShort
  | cUShort
  | cInt
  | cUInt
  | cLong
  | cULong
  | cLongLong
  | cULongLong
  | cFloat
  | cDouble
  | sizeT
  | ssizeT
  | ptrdiffT
  | vaList
  deriving DecidableEq, Repr

namespace Primitive

def spelling : Primitive → String
  | void => "c_void"
  | bool => "bool"
  | char32 => "char"
  | i8 => "i8"
  | i16 => "i16"
  | i32 => "i32"
  | i64 => "i64"
  | u8 => "u8"
  | u16 => "u16"
  | u32 => "u32"
  | u64 => "u64"
  | isize => "isize"
  | usize => "usize"
  | f32 => "f32"
  | f64 => "f64"
  | cChar => "c_char"
  | cSChar => "c_schar"
  | cUChar => "c_uchar"
  | cShort => "c_short"
  | cUShort => "c_ushort"
  | cInt => "c_int"
  | cUInt => "c_uint"
  | cLong => "c_long"
  | cULong => "c_ulong"
  | cLongLong => "c_longlong"
  | cULongLong => "c_ulonglong"
  | cFloat => "c_float"
  | cDouble => "c_double"
  | sizeT => "size_t"
  | ssizeT => "ssize_t"
  | ptrdiffT => "ptrdiff_t"
  | vaList => "VaList"

def cSpelling : Primitive → String
  | void => "void"
  | bool => "bool"
  | char32 => "uint32_t"
  | i8 => "int8_t"
  | i16 => "int16_t"
  | i32 => "int32_t"
  | i64 => "int64_t"
  | u8 => "uint8_t"
  | u16 => "uint16_t"
  | u32 => "uint32_t"
  | u64 => "uint64_t"
  | isize => "intptr_t"
  | usize => "uintptr_t"
  | f32 => "float"
  | f64 => "double"
  | cChar => "char"
  | cSChar => "signed char"
  | cUChar => "unsigned char"
  | cShort => "short"
  | cUShort => "unsigned short"
  | cInt => "int"
  | cUInt => "unsigned int"
  | cLong => "long"
  | cULong => "unsigned long"
  | cLongLong => "long long"
  | cULongLong => "unsigned long long"
  | cFloat => "float"
  | cDouble => "double"
  | sizeT => "size_t"
  | ssizeT => "ssize_t"
  | ptrdiffT => "ptrdiff_t"
  | vaList => "va_list"

def isInteger : Primitive → Bool
  | void | bool | char32 | f32 | f64 | cFloat | cDouble | vaList => false
  | _ => true

def all : List Primitive := [
  void, bool, char32, i8, i16, i32, i64, u8, u16, u32, u64, isize, usize, f32, f64, cChar, cSChar,
  cUChar, cShort, cUShort, cInt, cUInt, cLong, cULong, cLongLong, cULongLong, cFloat, cDouble,
  sizeT, ssizeT, ptrdiffT, vaList]

theorem mem_all (p : Primitive) : p ∈ all := by cases p <;> decide

def ofFixedWidthName? : String → Option Primitive
  | "uint8_t" => some u8
  | "uint16_t" => some u16
  | "uint32_t" => some u32
  | "uint64_t" => some u64
  | "int8_t" => some i8
  | "int16_t" => some i16
  | "int32_t" => some i32
  | "int64_t" => some i64
  | "uintptr_t" => some usize
  | "intptr_t" => some isize
  | _ => none

/-- The primitive that a type text names, by either spelling. -/
def ofName? (name : String) : Option Primitive :=
  (all.find? fun p => p.spelling == name).or (ofFixedWidthName? name)

theorem ofName?_spelling (p : Primitive) : ofName? p.spelling = some p := by
  cases p <;> decide

end Primitive

end CrateHeader
