namespace QueryWatch

def version : String := "0.3.0"

end QueryWatch
