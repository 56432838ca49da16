import TableAtlas.Policy.Basic

/-!
# The bundled policy

Audit and administrative columns stand on nearly every table and never link any, even where
they are keys. Client numbers belong to the client table.
-/

namespace TableAtlas.Policy

def bundled : Policy :=
  ofNames
    ["COMPANY", "TRAN_TIMESTAMP", "USER_ID", "CREATE_USER_ID", "LAST_CHANGE_USER_ID",
      "APPR_USER_ID", "AUTH_USER_ID", "CREATE_DATE", "UPDATE_DATE", "LAST_CHANGE_DATE",
      "TRAN_DATE", "RUN_DATE", "JOB_RUN_ID", "BATCH_NO", "REMARK", "REMARK1", "REMARK2",
      "REMARK3", "ERROR_CODE", "ERROR_DESC"]
    [("CLIENT_NO", "cif_client")]

end TableAtlas.Policy
