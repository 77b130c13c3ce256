/-! # Codes of reported errors -/

namespace SqlWire.SqlState

def connectionFailure : String := "08006"
def protocolViolation : String := "08P01"
def featureNotSupported : String := "0A000"
def invalidTextRepresentation : String := "22P02"
def notNullViolation : String := "23502"
def uniqueViolation : String := "23505"
def activeTransaction : String := "25001"
def noActiveTransaction : String := "25P01"
def inFailedTransaction : String := "25P02"
def invalidPassword : String := "28P01"
def syntaxError : String := "42601"
def undefinedColumn : String := "42703"
def undefinedTable : String := "42P01"
def duplicateTable : String := "42P07"
def internalError : String := "XX000"

def all : List String :=
  [connectionFailure, protocolViolation, featureNotSupported, invalidTextRepresentation,
    notNullViolation, uniqueViolation, activeTransaction, noActiveTransaction,
    inFailedTransaction, invalidPassword, syntaxError, undefinedColumn, undefinedTable,
    duplicateTable, internalError]

end SqlWire.SqlState
