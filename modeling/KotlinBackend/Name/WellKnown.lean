import KotlinBackend.Name.ClassId

/-!
# Classes of the source language

Identifiers of the classes of the standard library that the compiler treats specially.
-/

namespace KotlinBackend.WellKnown

def languagePackage : String := "kotlin"

def kotlin (name : String) : ClassId := .inPackage languagePackage name

def collections (name : String) : ClassId := .inPackage "kotlin.collections" name

def any : ClassId := kotlin "Any"

def nothing : ClassId := kotlin "Nothing"

def unit : ClassId := kotlin "Unit"

def number : ClassId := kotlin "Number"

def boolean : ClassId := kotlin "Boolean"

def char : ClassId := kotlin "Char"

def byte : ClassId := kotlin "Byte"

def short : ClassId := kotlin "Short"

def int : ClassId := kotlin "Int"

def long : ClassId := kotlin "Long"

def float : ClassId := kotlin "Float"

def double : ClassId := kotlin "Double"

def ubyte : ClassId := kotlin "UByte"

def ushort : ClassId := kotlin "UShort"

def uint : ClassId := kotlin "UInt"

def ulong : ClassId := kotlin "ULong"

def string : ClassId := kotlin "String"

def charSequence : ClassId := kotlin "CharSequence"

def comparable : ClassId := kotlin "Comparable"

def enumClass : ClassId := kotlin "Enum"

def throwable : ClassId := kotlin "Throwable"

def annotationClass : ClassId := kotlin "Annotation"

def array : ClassId := kotlin "Array"

def booleanArray : ClassId := kotlin "BooleanArray"

def charArray : ClassId := kotlin "CharArray"

def byteArray : ClassId := kotlin "ByteArray"

def shortArray : ClassId := kotlin "ShortArray"

def intArray : ClassId := kotlin "IntArray"

def longArray : ClassId := kotlin "LongArray"

def floatArray : ClassId := kotlin "FloatArray"

def doubleArray : ClassId := kotlin "DoubleArray"

def iterable : ClassId := collections "Iterable"

def mutableIterable : ClassId := collections "MutableIterable"

def collection : ClassId := collections "Collection"

def mutableCollection : ClassId := collections "MutableCollection"

def list : ClassId := collections "List"

def mutableList : ClassId := collections "MutableList"

def set : ClassId := collections "Set"

def mutableSet : ClassId := collections "MutableSet"

def map : ClassId := collections "Map"

def mutableMap : ClassId := collections "MutableMap"

def mapEntry : ClassId := map.nested "Entry"

def iterator : ClassId := collections "Iterator"

def mutableIterator : ClassId := collections "MutableIterator"

end KotlinBackend.WellKnown
