/-! # Fixed words of the protocol -/

namespace SqlWire.Protocol

def version3 : Int32 := 196608

/-- What stands in the place of a version when the client asks for encryption. -/
def sslRequestCode : Int32 := 80877103

def sslRefusal : UInt8 := 'N'.toUInt8

end SqlWire.Protocol
