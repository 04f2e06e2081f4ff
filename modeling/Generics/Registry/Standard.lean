import Generics.Registry.Edit

/-!
# A slice of the standard class library

Twenty-one classes and fourteen type parameters of the Java class library: enough boxes, strings,
collections and maps to resolve generic types without a class path. The numbers of classes and type
parameters follow the order of the statements below.

## Main definitions

* `Registry.standard`.
-/

namespace Generics

namespace Registry

/-- A public interface. -/
def interfaceDef (name : String) (typeParams : List VarId) (interfaces : List TypeExpr) :
    ClassDef where
  name := name
  kind := .interface
  isAbstract := true
  typeParams := typeParams
  interfaces := interfaces

/-- A public class with a constructor that takes no arguments. -/
def classDef (name : String) (typeParams : List VarId) (superclass : TypeExpr)
    (interfaces : List TypeExpr) : ClassDef where
  name := name
  typeParams := typeParams
  superclass := some superclass
  interfaces := interfaces
  constructors := [{}]

/-- A non-generic interface without superinterfaces. -/
def addMarker (name : String) : StateM Registry ClassId :=
  modifyGet (addClass (interfaceDef name [] []))

/-- A type parameter of class `c` bounded by `Object`. -/
def addFormal (name : String) (c : ClassId) : StateM Registry VarId :=
  modifyGet (addTypeParam name (.ofClass c) [])

/-- A number class, comparable with itself. -/
def addNumber (name : String) (number comparable : ClassId) : StateM Registry Unit := do
  let c ← modifyGet (intern name)
  modify (define c (classDef name [] (.raw number) [.ofClass comparable [.raw c]]))

/-- A collection interface with one formal, below `collection`. -/
def addCollectionInterface (name : String) (collection : ClassId) : StateM Registry ClassId := do
  let c ← modifyGet (intern name)
  let e ← addFormal "E" c
  modify (define c (interfaceDef name [e] [.ofClass collection [.var e]]))
  return c

/-- A collection class with one formal: it can be empty or copy another collection. -/
def addCollectionClass (name : String) (interface collection object : ClassId)
    (markers : List TypeExpr) : StateM Registry Unit := do
  let c ← modifyGet (intern name)
  let e ← addFormal "E" c
  let copy : Constructor := { params := [.ofClass collection [.extending (.var e)]] }
  modify (define c
    { classDef name [e] (.raw object) (.ofClass interface [.var e] :: markers) with
      constructors := [{}, copy] })

/-- The statements that build the standard registry from the initial one. -/
def addStandard : StateM Registry Unit := do
  let object := (← get).object
  let serializable ← addMarker "java.io.Serializable"
  let cloneable ← addMarker "java.lang.Cloneable"
  let charSequence ← addMarker "java.lang.CharSequence"
  let comparable ← modifyGet (intern "java.lang.Comparable")
  let comparableT ← addFormal "T" comparable
  modify (define comparable (interfaceDef "java.lang.Comparable" [comparableT] []))
  let boolean ← modifyGet (intern "java.lang.Boolean")
  modify (define boolean (classDef "java.lang.Boolean" [] (.raw object)
    [.raw serializable, .ofClass comparable [.raw boolean]]))
  let number ← modifyGet (addClass
    { classDef "java.lang.Number" [] (.raw object) [.raw serializable] with
      isAbstract := true
      constructors := [] })
  addNumber "java.lang.Double" number comparable
  addNumber "java.lang.Integer" number comparable
  addNumber "java.lang.Long" number comparable
  let string ← modifyGet (intern "java.lang.String")
  modify (define string (classDef "java.lang.String" [] (.raw object)
    [.raw serializable, .ofClass comparable [.raw string], .raw charSequence]))
  let iterable ← modifyGet (intern "java.lang.Iterable")
  let iterableT ← addFormal "T" iterable
  modify (define iterable (interfaceDef "java.lang.Iterable" [iterableT] []))
  let collection ← modifyGet (intern "java.util.Collection")
  let collectionE ← addFormal "E" collection
  let add : Method :=
    { name := "add", params := [.var collectionE], returnType := some (.raw boolean) }
  modify (define collection
    { interfaceDef "java.util.Collection" [collectionE] [.ofClass iterable [.var collectionE]] with
      methods := [add] })
  let list ← addCollectionInterface "java.util.List" collection
  let set ← addCollectionInterface "java.util.Set" collection
  let markers := [.raw cloneable, .raw serializable]
  addCollectionClass "java.util.ArrayList" list collection object markers
  addCollectionClass "java.util.LinkedList" list collection object markers
  addCollectionClass "java.util.HashSet" set collection object markers
  let map ← modifyGet (intern "java.util.Map")
  let mapK ← addFormal "K" map
  let mapV ← addFormal "V" map
  let put : Method :=
    { name := "put", params := [.var mapK, .var mapV], returnType := some (.var mapV) }
  modify (define map { interfaceDef "java.util.Map" [mapK, mapV] [] with methods := [put] })
  let hashMap ← modifyGet (intern "java.util.HashMap")
  let hashMapK ← addFormal "K" hashMap
  let hashMapV ← addFormal "V" hashMap
  modify (define hashMap (classDef "java.util.HashMap" [hashMapK, hashMapV] (.raw object)
    (.ofClass map [.var hashMapK, .var hashMapV] :: markers)))
  let collections ← modifyGet (intern "java.util.Collections")
  let sortT ← modifyGet (addTypeParam "T" (.ofMethod collections "sort" 1) [])
  modify (setBounds sortT [.ofClass comparable [.superOf (.var sortT)]])
  let singletonT ← modifyGet (addTypeParam "T" (.ofMethod collections "singletonList" 1) [])
  let sort : Method :=
    { name := "sort", typeParams := [sortT], params := [.ofClass list [.var sortT]],
      isStatic := true }
  let singletonList : Method :=
    { name := "singletonList", typeParams := [singletonT], params := [.var singletonT],
      returnType := some (.ofClass list [.var singletonT]), isStatic := true }
  modify (define collections
    { classDef "java.util.Collections" [] (.raw object) [] with
      constructors := []
      methods := [sort, singletonList] })

/-- The registry of the standard classes. -/
def standard : Registry := (addStandard.run initial).2

end Registry

end Generics
